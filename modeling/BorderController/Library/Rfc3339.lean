import BorderController.Library.RustString
import Mathlib.Data.Nat.Init
import Mathlib.Tactic.Linarith

/-
  Time stamps in the format of RFC 3339, their texts, and the
  instants they denote.

  An instant is a minute of UTC, a second in it and a fraction.
  A leap second is second 60 of its minute, so that it comes
  after second 59 and before the next minute.

  Key definitions include:
    * `Date`, `Date.dayNumber`
    * `Zone`
    * `Timestamp`, `Timestamp.text`
    * `Timestamp.Before`
    * `Timestamp.Misordered`

  Key theorems include:
    * `lessChars_decimal_iff`
    * `Date.dayNumber_lt_iff`
    * `less_of_sameDigits`
    * `Timestamp.before_iff`
    * `Timestamp.text_less_iff_before_iff`
-/

------------------------------------------------------------
-- Decimal Numbers of Fixed Width
------------------------------------------------------------

namespace Rfc3339

open RustString

/- The last digits of a number. -/
def decimal : Nat → Nat → List Char
  | 0, _ => []
  | width + 1, n =>
      decimal width (n / 10) ++ [Nat.digitChar (n % 10)]

variable {m n width : Nat}
variable {u v : List Char}

theorem digitChar_toNat
    (hDigit : n < 10) :
    (Nat.digitChar n).toNat = 48 + n := by
  have hAll :
      ∀ d : Fin 10, (Nat.digitChar d).toNat = 48 + d := by
    decide
  exact hAll ⟨n, hDigit⟩

@[simp] theorem decimal_length :
    (decimal width n).length = width := by
  induction width generalizing n with
  | zero => rfl
  | succ width ih => simp [decimal, ih]

theorem lessChars_digitChar_iff
    (hFirst : m < 10)
    (hSecond : n < 10) :
    lessChars (Nat.digitChar m :: u)
        (Nat.digitChar n :: v) = true ↔
      m < n ∨ m = n ∧ lessChars u v = true := by
  have hFirstCode := digitChar_toNat hFirst
  have hSecondCode := digitChar_toNat hSecond
  rcases Nat.lt_trichotomy m n with hLess | hSame | hGreater
  · have hCodes :
        (Nat.digitChar m).toNat < (Nat.digitChar n).toNat := by
      omega
    simp [lessChars_of_lt hCodes, hLess]
  · subst hSame
    simp
  · have hCodes :
        (Nat.digitChar n).toNat < (Nat.digitChar m).toNat := by
      omega
    rw [lessChars_of_gt hCodes]
    simp only [Bool.false_eq_true, false_iff]
    omega

theorem digitChar_inj
    (hFirst : m < 10)
    (hSecond : n < 10) :
    Nat.digitChar m = Nat.digitChar n ↔ m = n := by
  rw [← Char.toNat_inj, digitChar_toNat hFirst,
    digitChar_toNat hSecond]
  omega

theorem mod_ten_lt : n % 10 < 10 :=
  Nat.mod_lt n (by decide)

theorem decimal_inj
    (hFirst : m < 10 ^ width)
    (hSecond : n < 10 ^ width) :
    decimal width m = decimal width n ↔ m = n := by
  induction width generalizing m n with
  | zero =>
      simp only [Nat.pow_zero] at hFirst hSecond
      simp only [decimal, true_iff]
      omega
  | succ width ih =>
      rw [Nat.pow_succ] at hFirst hSecond
      have hRest := @ih (m / 10) (n / 10)
        (Nat.div_lt_of_lt_mul (by omega))
        (Nat.div_lt_of_lt_mul (by omega))
      constructor
      · intro hSame
        have hParts := List.append_inj' hSame rfl
        have hLast := (digitChar_inj mod_ten_lt mod_ten_lt).mp
          (List.head_eq_of_cons_eq hParts.2)
        have hInit := hRest.mp hParts.1
        omega
      · intro hSame
        rw [hSame]

/- The order of the digits is the order of the numbers. -/
theorem lessChars_decimal_iff
    (hFirst : m < 10 ^ width)
    (hSecond : n < 10 ^ width) :
    lessChars (decimal width m) (decimal width n) = true ↔
      m < n := by
  induction width generalizing m n with
  | zero =>
      simp only [Nat.pow_zero] at hFirst hSecond
      simp only [decimal, lessChars_self, Bool.false_eq_true,
        false_iff]
      omega
  | succ width ih =>
      rw [Nat.pow_succ] at hFirst hSecond
      have hFirstRest : m / 10 < 10 ^ width :=
        Nat.div_lt_of_lt_mul (by omega)
      have hSecondRest : n / 10 < 10 ^ width :=
        Nat.div_lt_of_lt_mul (by omega)
      unfold decimal
      rw [lessChars_append_iff (by simp),
        ih hFirstRest hSecondRest,
        decimal_inj hFirstRest hSecondRest,
        lessChars_digitChar_iff mod_ten_lt mod_ten_lt]
      simp only [lessChars_self, Bool.false_eq_true, and_false,
        or_false]
      omega

/- A number and what follows it. -/
theorem lessChars_decimal_append_iff
    (hFirst : m < 10 ^ width)
    (hSecond : n < 10 ^ width) :
    lessChars (decimal width m ++ u)
        (decimal width n ++ v) = true ↔
      m < n ∨ m = n ∧ lessChars u v = true := by
  rw [lessChars_append_iff (by simp),
    lessChars_decimal_iff hFirst hSecond,
    decimal_inj hFirst hSecond]

end Rfc3339

------------------------------------------------------------
-- Dates
------------------------------------------------------------

namespace Rfc3339

open RustString

def isLeapYear (year : Nat) : Bool :=
  year % 4 = 0 && (year % 100 ≠ 0 || year % 400 = 0)

def daysInMonth (year : Nat) : Nat → Nat
  | 0 => 0
  | 2 => if isLeapYear year then 29 else 28
  | 4 | 6 | 9 | 11 => 30
  | _ => 31

/- The days of the year before a month, counted from 1. -/
def daysBeforeMonth (year : Nat) : Nat → Nat
  | 0 => 0
  | month + 1 =>
      daysBeforeMonth year month + daysInMonth year month

/- The days before a year; year 0 is a leap year. -/
def daysBeforeYear (year : Nat) : Nat :=
  365 * year + (year + 3) / 4 - (year + 99) / 100 +
    (year + 399) / 400

structure Date where
  year : Nat
  month : Nat
  day : Nat
  year_lt : year < 10000
  month_pos : 1 ≤ month
  month_le : month ≤ 12
  day_pos : 1 ≤ day
  day_le : day ≤ daysInMonth year month

namespace Date

/- The days since the first of January of year 0. -/
def dayNumber (date : Date) : Nat :=
  daysBeforeYear date.year +
    daysBeforeMonth date.year date.month + (date.day - 1)

def chars (date : Date) : List Char :=
  decimal 4 date.year ++ '-' ::
    (decimal 2 date.month ++ '-' :: decimal 2 date.day)

end Date

variable {year later month : Nat}
variable {d e : Date}
variable {u v : List Char}

theorem daysInMonth_le :
    daysInMonth year month ≤ 31 := by
  unfold daysInMonth
  split
  · omega
  · split <;> omega
  all_goals omega

theorem daysBeforeMonth_mono
    {next : Nat}
    (hMonths : month ≤ next) :
    daysBeforeMonth year month ≤
      daysBeforeMonth year next := by
  induction hMonths with
  | refl => exact Nat.le_refl _
  | step _ ih => exact Nat.le_trans ih (Nat.le_add_right _ _)

theorem daysBeforeMonth_thirteen :
    daysBeforeMonth year 13 =
      if isLeapYear year then 366 else 365 := by
  cases hLeap : isLeapYear year <;>
    simp [daysBeforeMonth, daysInMonth, hLeap]

theorem isLeapYear_eq_true_iff :
    isLeapYear year = true ↔
      year % 4 = 0 ∧ (year % 100 ≠ 0 ∨ year % 400 = 0) := by
  simp [isLeapYear]

/- The multiples of a number that are below the next year. -/
theorem multiples_succ
    (k : Nat) :
    (year + 1 + k) / (k + 1) =
      (year + k) / (k + 1) +
        if year % (k + 1) = 0 then 1 else 0 := by
  have hNext : year + 1 + k = (year + k) + 1 := by omega
  have hWrap : year + k + 1 = year + (k + 1) := by omega
  rw [hNext, Nat.succ_div]
  simp only [hWrap, Nat.dvd_iff_mod_eq_zero,
    Nat.add_mod_right]

/- The twelve months fill the year. -/
theorem daysBeforeYear_succ :
    daysBeforeYear (year + 1) =
      daysBeforeYear year + daysBeforeMonth year 13 := by
  have hCentury : year % 100 = 0 → year % 4 = 0 := by omega
  have hCycle : year % 400 = 0 → year % 100 = 0 := by omega
  have hEnough : (year + 99) / 100 ≤ 365 * year := by omega
  unfold daysBeforeYear
  rw [daysBeforeMonth_thirteen, multiples_succ 3,
    multiples_succ 99, multiples_succ 399]
  simp only [isLeapYear_eq_true_iff]
  generalize (year + 3) / 4 = fours
  generalize (year + 99) / 100 = centuries at hEnough ⊢
  generalize (year + 399) / 400 = cycles
  by_cases hFour : year % 4 = 0
  · by_cases hHundred : year % 100 = 0
    · by_cases hCycles : year % 400 = 0
      · simp only [hFour, hHundred, hCycles]
        simp
        omega
      · simp [hFour, hHundred, hCycles]
        omega
    · have hCycles := mt hCycle hHundred
      simp [hFour, hHundred, hCycles]
      omega
  · have hHundred := mt hCentury hFour
    have hCycles := mt hCycle hHundred
    simp [hFour, hHundred, hCycles]
    omega

theorem daysBeforeYear_mono
    (hYears : year ≤ later) :
    daysBeforeYear year ≤ daysBeforeYear later := by
  induction hYears with
  | refl => exact Nat.le_refl _
  | @step next _ ih =>
      have hNext := @daysBeforeYear_succ next
      rw [Nat.succ_eq_add_one]
      omega

namespace Date

/- A date lies in its month, and the month in its year. -/
theorem dayNumber_bounds :
    daysBeforeYear d.year + daysBeforeMonth d.year d.month ≤
        d.dayNumber ∧
      d.dayNumber <
        daysBeforeYear d.year +
          daysBeforeMonth d.year (d.month + 1) := by
  have hDay := d.day_le
  have hFirst := d.day_pos
  unfold dayNumber
  rw [daysBeforeMonth]
  omega

theorem dayNumber_lt_of_year_lt
    (hYears : d.year < e.year) :
    d.dayNumber < e.dayNumber := by
  have hFirst := (@dayNumber_bounds d).2
  have hSecond := (@dayNumber_bounds e).1
  have hYear := daysBeforeYear_mono hYears
  have hNext := @daysBeforeYear_succ d.year
  have hMonth := @daysBeforeMonth_mono d.year (d.month + 1) 13
    (Nat.succ_le_succ d.month_le)
  simp only [Nat.succ_eq_add_one] at hYear
  omega

theorem dayNumber_lt_of_month_lt
    (hYears : d.year = e.year)
    (hMonths : d.month < e.month) :
    d.dayNumber < e.dayNumber := by
  have hFirst := (@dayNumber_bounds d).2
  have hSecond := (@dayNumber_bounds e).1
  rw [hYears] at hFirst
  have hMonth := @daysBeforeMonth_mono e.year (d.month + 1)
    e.month hMonths
  omega

/- The order of the fields is the order of the days. -/
theorem dayNumber_lt_iff :
    d.dayNumber < e.dayNumber ↔
      d.year < e.year ∨ d.year = e.year ∧
        (d.month < e.month ∨ d.month = e.month ∧
          d.day < e.day) := by
  have hFirstDay := d.day_pos
  have hSecondDay := e.day_pos
  rcases Nat.lt_trichotomy d.year e.year with
    hYears | hYears | hYears
  · have hLess := dayNumber_lt_of_year_lt hYears
    omega
  · rcases Nat.lt_trichotomy d.month e.month with
      hMonths | hMonths | hMonths
    · have hLess := dayNumber_lt_of_month_lt hYears hMonths
      omega
    · unfold dayNumber
      rw [hYears, hMonths]
      omega
    · have hGreater :=
        dayNumber_lt_of_month_lt hYears.symm hMonths
      omega
  · have hGreater := dayNumber_lt_of_year_lt hYears
    omega

theorem dayNumber_eq_iff :
    d.dayNumber = e.dayNumber ↔
      d.year = e.year ∧ d.month = e.month ∧
        d.day = e.day := by
  have hBefore := @dayNumber_lt_iff d e
  have hAfter := @dayNumber_lt_iff e d
  omega

/- Texts of dates, and what follows them. -/
theorem lessChars_append_iff :
    lessChars (d.chars ++ u) (e.chars ++ v) = true ↔
      d.dayNumber < e.dayNumber ∨
        d.dayNumber = e.dayNumber ∧
          lessChars u v = true := by
  have hFirstDay := d.day_le
  have hSecondDay := e.day_le
  have hFirstLast := @daysInMonth_le d.year d.month
  have hSecondLast := @daysInMonth_le e.year e.month
  have hFirstMonth := d.month_le
  have hSecondMonth := e.month_le
  rw [dayNumber_lt_iff, dayNumber_eq_iff]
  unfold chars
  simp only [List.append_assoc, List.cons_append]
  rw [lessChars_decimal_append_iff d.year_lt e.year_lt,
    lessChars_cons_self,
    lessChars_decimal_append_iff (by omega) (by omega),
    lessChars_cons_self,
    lessChars_decimal_append_iff (by omega) (by omega)]
  tauto

end Date

end Rfc3339

------------------------------------------------------------
-- Fractions of a Second
------------------------------------------------------------

namespace Rfc3339

open RustString

/- The value of the digits behind the point. -/
def fractionValue : List (Fin 10) → Rat
  | [] => 0
  | d :: digits => ((d.val : Rat) + fractionValue digits) / 10

def fractionChars (digits : List (Fin 10)) : List Char :=
  digits.map fun d => Nat.digitChar d

/- The digits behind a point; no digits, no point. -/
def secfrac (digits : List (Fin 10)) : List Char :=
  if digits = [] then [] else '.' :: fractionChars digits

variable {s t digits : List (Fin 10)}

theorem fractionValue_cons
    {d : Fin 10} :
    fractionValue (d :: digits) =
      ((d.val : Rat) + fractionValue digits) / 10 := rfl

theorem fractionValue_bounds :
    0 ≤ fractionValue digits ∧ fractionValue digits < 1 := by
  induction digits with
  | nil => simp [fractionValue]
  | cons d digits ih =>
      have hDigit : (d.val : Rat) ≤ 9 := by
        exact_mod_cast Nat.le_of_lt_succ d.isLt
      have hNonneg : (0 : Rat) ≤ d.val := Nat.cast_nonneg _
      rw [fractionValue_cons]
      constructor
      · linarith
      · linarith

theorem fractionValue_pos_iff :
    0 < fractionValue digits ↔ ∃ d ∈ digits, d ≠ 0 := by
  induction digits with
  | nil => simp [fractionValue]
  | cons d digits ih =>
      have hRest := (@fractionValue_bounds digits).1
      have hNonneg : (0 : Rat) ≤ d.val := Nat.cast_nonneg _
      rw [List.exists_mem_cons_iff, ← ih]
      rw [fractionValue_cons]
      constructor
      · intro hPos
        by_cases hZero : d = 0
        · right
          rw [hZero] at hPos
          simp only [Fin.val_zero, Nat.cast_zero] at hPos
          linarith
        · exact Or.inl hZero
      · rintro (hDigit | hDigits)
        · have hOne : (1 : Rat) ≤ d.val := by
            exact_mod_cast Nat.one_le_iff_ne_zero.mpr
              (fun h => hDigit (Fin.ext h))
          linarith
        · linarith

/- A smaller digit outweighs whatever follows it. -/
theorem fractionValue_lt_of_digit_lt
    {d e : Fin 10}
    (hDigits : d < e) :
    fractionValue (d :: s) < fractionValue (e :: t) := by
  have hFirst := (@fractionValue_bounds s).2
  have hSecond := (@fractionValue_bounds t).1
  have hStep : (d.val : Rat) + 1 ≤ e.val := by
    exact_mod_cast hDigits
  rw [fractionValue_cons, fractionValue_cons]
  linarith

theorem fractionValue_cons_lt_iff
    {d : Fin 10} :
    fractionValue (d :: s) < fractionValue (d :: t) ↔
      fractionValue s < fractionValue t := by
  rw [fractionValue_cons, fractionValue_cons]
  constructor
  · intro hLess
    linarith
  · intro hLess
    linarith

end Rfc3339

------------------------------------------------------------
-- Time Zones
------------------------------------------------------------

namespace Rfc3339

open RustString

/- The letters `T` and `Z` may be written small. -/
inductive Letter where
  | upper
  | lower
deriving DecidableEq, Repr

inductive Sign where
  | plus
  | minus
deriving DecidableEq, Repr

inductive Zone where
  | utc (letter : Letter)
  | offset (sign : Sign) (hour : Fin 24) (minute : Fin 60)
deriving DecidableEq, Repr

def Sign.char : Sign → Char
  | plus => '+'
  | minus => '-'

namespace Zone

def chars : Zone → List Char
  | utc .upper => ['Z']
  | utc .lower => ['z']
  | offset sign hour minute =>
      sign.char :: (decimal 2 hour ++ ':' :: decimal 2 minute)

/- The minutes that the local time is ahead of UTC. -/
def offsetMinutes : Zone → Int
  | utc _ => 0
  | offset .plus hour minute => hour * 60 + minute
  | offset .minus hour minute => -(hour * 60 + minute)

/- The numeric zones, which begin with a sign. -/
def isOffset : Zone → Bool
  | utc _ => false
  | offset _ _ _ => true

/- The place of a zone among the texts of the zones. -/
def rank : Zone → Nat
  | offset .plus hour minute => hour * 60 + minute
  | offset .minus hour minute => 1440 + (hour * 60 + minute)
  | utc .upper => 2880
  | utc .lower => 2881

end Zone

variable {a b : Zone}
variable {letter : Letter}
variable {sign : Sign}
variable {hour : Fin 24}
variable {minute : Fin 60}
variable {c : Char}
variable {u : List Char}

/- The letter comes after points and digits. -/
theorem less_utc
    (hCode : c.toNat ≤ 57) :
    lessChars (c :: u) (Zone.utc letter).chars = true ∧
      lessChars (Zone.utc letter).chars (c :: u) = false := by
  cases letter with
  | upper =>
      have hLess : c.toNat < 'Z'.toNat :=
        Nat.lt_of_le_of_lt hCode (by decide)
      exact ⟨lessChars_of_lt hLess, lessChars_of_gt hLess⟩
  | lower =>
      have hLess : c.toNat < 'z'.toNat :=
        Nat.lt_of_le_of_lt hCode (by decide)
      exact ⟨lessChars_of_lt hLess, lessChars_of_gt hLess⟩

/- The signs come before points and digits. -/
theorem less_offset
    (hCode : 46 ≤ c.toNat) :
    lessChars (Zone.offset sign hour minute).chars (c :: u) =
        true ∧
      lessChars (c :: u) (Zone.offset sign hour minute).chars =
        false := by
  have hSign : sign.char.toNat < 46 := by
    cases sign <;> decide
  have hLess : sign.char.toNat < c.toNat :=
    Nat.lt_of_lt_of_le hSign hCode
  exact ⟨lessChars_of_lt hLess, lessChars_of_gt hLess⟩

namespace Zone

/- A zone where the other text has a point or a digit. -/
theorem less_iff_isOffset
    (hLow : 46 ≤ c.toNat)
    (hHigh : c.toNat ≤ 57) :
    (lessChars a.chars (c :: u) = true ↔ a.isOffset = true) ∧
      (lessChars (c :: u) a.chars = true ↔
        a.isOffset = false) := by
  cases a with
  | utc letter =>
      rw [(less_utc hHigh).1, (less_utc hHigh).2]
      simp [isOffset]
  | offset sign hour minute =>
      rw [(less_offset hLow).1, (less_offset hLow).2]
      simp [isOffset]

theorem offset_chars :
    (offset sign hour minute).chars =
      sign.char ::
        (decimal 2 hour ++ ':' :: decimal 2 minute) := rfl

/- Numeric zones with one sign are compared as numbers. -/
theorem lessChars_offset_iff
    {otherHour : Fin 24}
    {otherMinute : Fin 60} :
    lessChars (offset sign hour minute).chars
        (offset sign otherHour otherMinute).chars = true ↔
      hour.val * 60 + minute.val <
        otherHour.val * 60 + otherMinute.val := by
  have hHour := hour.isLt
  have hMinute := minute.isLt
  have hOtherHour := otherHour.isLt
  have hOtherMinute := otherMinute.isLt
  rw [offset_chars, offset_chars, lessChars_cons_self,
    lessChars_decimal_append_iff (by omega) (by omega),
    lessChars_cons_self,
    lessChars_decimal_iff (by omega) (by omega)]
  omega

theorem lessChars_iff :
    lessChars a.chars b.chars = true ↔ a.rank < b.rank := by
  have hCode : ∀ sign : Sign, sign.char.toNat ≤ 57 := by
    intro sign
    cases sign <;> decide
  cases a with
  | utc letter =>
      cases b with
      | utc other => cases letter <;> cases other <;> decide
      | offset sign hour minute =>
          have hHour := hour.isLt
          have hMinute := minute.isLt
          rw [offset_chars, (less_utc (hCode sign)).2]
          cases letter <;> cases sign <;> simp [rank] <;> omega
  | offset sign hour minute =>
      have hHour := hour.isLt
      have hMinute := minute.isLt
      cases b with
      | utc letter =>
          rw [offset_chars, (less_utc (hCode sign)).1]
          cases letter <;> cases sign <;> simp [rank] <;> omega
      | offset other otherHour otherMinute =>
          have hOtherHour := otherHour.isLt
          have hOtherMinute := otherMinute.isLt
          cases sign with
          | plus =>
              cases other with
              | plus => exact lessChars_offset_iff
              | minus =>
                  rw [offset_chars, offset_chars,
                    lessChars_of_lt (by decide)]
                  simp only [rank, true_iff]
                  omega
          | minus =>
              cases other with
              | plus =>
                  rw [offset_chars, offset_chars,
                    lessChars_of_gt (by decide)]
                  simp only [rank, Bool.false_eq_true,
                    false_iff]
                  omega
              | minus =>
                  rw [lessChars_offset_iff]
                  simp only [rank]
                  omega

end Zone

end Rfc3339

------------------------------------------------------------
-- Texts of Fractions
------------------------------------------------------------

namespace Rfc3339

open RustString

/- Every digit that both fractions have is the same. -/
def SameDigits (s t : List (Fin 10)) : Prop :=
  s <+: t ∨ t <+: s

/-
  Of two fractions with the same digits, the one whose text is
  first.  Where one of them ends, its zone meets a digit of the
  other, and a sign comes before it and a letter after it.
-/
def ReadsFirst
    (a b : Zone)
    (s t : List (Fin 10)) :
    Prop :=
  if s.length < t.length then
    a.isOffset = true
  else if t.length < s.length then
    b.isOffset = false
  else
    a.rank < b.rank

variable {a b : Zone}
variable {d e : Fin 10}
variable {s t : List (Fin 10)}

theorem digitChar_code :
    46 ≤ (Nat.digitChar d).toNat ∧
      (Nat.digitChar d).toNat ≤ 57 := by
  rw [digitChar_toNat d.isLt]
  omega

@[simp] theorem fractionChars_nil :
    fractionChars [] = [] := rfl

@[simp] theorem fractionChars_cons :
    fractionChars (d :: s) =
      Nat.digitChar d :: fractionChars s := rfl

@[simp] theorem fractionValue_nil :
    fractionValue [] = 0 := rfl

theorem sameDigits_cons_iff :
    SameDigits (d :: s) (e :: t) ↔
      d = e ∧ SameDigits s t := by
  unfold SameDigits
  rw [List.cons_prefix_cons, List.cons_prefix_cons]
  tauto

theorem less_of_sameDigits
    (hSame : SameDigits s t) :
    lessChars (fractionChars s ++ a.chars)
        (fractionChars t ++ b.chars) = true ↔
      ReadsFirst a b s t := by
  induction s generalizing t with
  | nil =>
      cases t with
      | nil => exact Zone.lessChars_iff
      | cons e t =>
          rw [fractionChars_cons, List.cons_append]
          simpa [ReadsFirst] using
            (Zone.less_iff_isOffset digitChar_code.1
              digitChar_code.2).1
  | cons d s ih =>
      cases t with
      | nil =>
          rw [fractionChars_cons, List.cons_append]
          simpa [ReadsFirst] using
            (Zone.less_iff_isOffset digitChar_code.1
              digitChar_code.2).2
      | cons e t =>
          rcases sameDigits_cons_iff.mp hSame with
            ⟨hDigit, hRest⟩
          subst hDigit
          simpa [ReadsFirst] using ih hRest

/- The further digits of the second fraction add to it. -/
theorem fractionValue_lt_of_sameDigits
    (hSame : SameDigits s t) :
    fractionValue s < fractionValue t ↔
      ∃ d ∈ t.drop s.length, d ≠ 0 := by
  induction s generalizing t with
  | nil => exact fractionValue_pos_iff
  | cons d s ih =>
      cases t with
      | nil =>
          have hNonneg := (@fractionValue_bounds (d :: s)).1
          simpa using hNonneg
      | cons e t =>
          rcases sameDigits_cons_iff.mp hSame with
            ⟨hDigit, hRest⟩
          subst hDigit
          rw [fractionValue_cons_lt_iff, ih hRest]
          rfl

/- The first digit that differs decides. -/
theorem less_of_not_sameDigits
    (hNot : ¬ SameDigits s t) :
    (lessChars (fractionChars s ++ a.chars)
          (fractionChars t ++ b.chars) = true ↔
        fractionValue s < fractionValue t) ∧
      fractionValue s ≠ fractionValue t := by
  induction s generalizing t with
  | nil => exact absurd (Or.inl List.nil_prefix) hNot
  | cons d s ih =>
      cases t with
      | nil => exact absurd (Or.inr List.nil_prefix) hNot
      | cons e t =>
          rw [sameDigits_cons_iff] at hNot
          simp only [fractionChars_cons, List.cons_append]
          rw [lessChars_digitChar_iff d.isLt e.isLt]
          rcases Nat.lt_trichotomy d.val e.val with
            hLess | hDigit | hGreater
          · have hValues :=
              @fractionValue_lt_of_digit_lt s t d e hLess
            exact ⟨by simp [hLess, hValues], hValues.ne⟩
          · have hEq : d = e := Fin.ext hDigit
            subst hEq
            rcases ih (fun hSame => hNot ⟨rfl, hSame⟩) with
              ⟨hLess, hNe⟩
            rw [fractionValue_cons_lt_iff, ← hLess]
            refine ⟨by simp, ?_⟩
            intro hValues
            apply hNe
            rw [fractionValue_cons, fractionValue_cons]
              at hValues
            linarith
          · have hValues :=
              @fractionValue_lt_of_digit_lt t s e d hGreater
            refine ⟨?_, hValues.ne'⟩
            simp [Nat.lt_asymm hGreater, lt_asymm hValues,
              Nat.ne_of_gt hGreater]

/- The point compares with the zone as a digit does. -/
theorem less_secfrac :
    lessChars (secfrac s ++ a.chars)
        (secfrac t ++ b.chars) =
      lessChars (fractionChars s ++ a.chars)
        (fractionChars t ++ b.chars) := by
  have hPointLow : 46 ≤ '.'.toNat := by decide
  have hPointHigh : '.'.toNat ≤ 57 := by decide
  cases s with
  | nil =>
      cases t with
      | nil => rfl
      | cons e t =>
          rw [Bool.eq_iff_iff]
          exact (Zone.less_iff_isOffset hPointLow
            hPointHigh).1.trans
              (Zone.less_iff_isOffset digitChar_code.1
                digitChar_code.2).1.symm
  | cons d s =>
      cases t with
      | nil =>
          rw [Bool.eq_iff_iff]
          exact (Zone.less_iff_isOffset hPointLow
            hPointHigh).2.trans
              (Zone.less_iff_isOffset digitChar_code.1
                digitChar_code.2).2.symm
      | cons e t => exact lessChars_cons_self

end Rfc3339

------------------------------------------------------------
-- Time Stamps
------------------------------------------------------------

namespace Rfc3339

open RustString

structure Timestamp where
  date : Date
  separator : Letter
  hour : Fin 24
  minute : Fin 60
  second : Fin 61
  fraction : List (Fin 10)
  zone : Zone

namespace Timestamp

def separatorChar (stamp : Timestamp) : Char :=
  match stamp.separator with
  | .upper => 'T'
  | .lower => 't'

/- What comes after the whole seconds. -/
def tail (stamp : Timestamp) : List Char :=
  secfrac stamp.fraction ++ stamp.zone.chars

def chars (stamp : Timestamp) : List Char :=
  stamp.date.chars ++ stamp.separatorChar ::
    (decimal 2 stamp.hour ++ ':' ::
      (decimal 2 stamp.minute ++ ':' ::
        (decimal 2 stamp.second ++ stamp.tail)))

def text (stamp : Timestamp) : String :=
  String.ofList stamp.chars

/- The minutes of the date and time as they are written. -/
def localMinute (stamp : Timestamp) : Int :=
  stamp.date.dayNumber * 1440 + stamp.hour * 60 +
    stamp.minute

def utcMinute (stamp : Timestamp) : Int :=
  stamp.localMinute - stamp.zone.offsetMinutes

/- The instant denoted by `s` is strictly earlier. -/
def Before (s t : Timestamp) : Prop :=
  s.utcMinute < t.utcMinute ∨ s.utcMinute = t.utcMinute ∧
    (s.second < t.second ∨ s.second = t.second ∧
      fractionValue s.fraction < fractionValue t.fraction)

end Timestamp

end Rfc3339

------------------------------------------------------------
-- Times That Are Misordered
------------------------------------------------------------

namespace Rfc3339

open RustString

namespace Timestamp

/-
  The seconds of the date and time as they are written.  Every
  minute has room for a leap second.
-/
def localSecond (stamp : Timestamp) : Rat :=
  61 * stamp.localMinute + stamp.second.val +
    fractionValue stamp.fraction

/- Written on the same date, with different letters after it. -/
def LettersDiffer (s t : Timestamp) : Prop :=
  s.date.dayNumber = t.date.dayNumber ∧
    s.separator ≠ t.separator

/- Every digit of the times that both texts have is the same. -/
def WrittenAlike (s t : Timestamp) : Prop :=
  s.localMinute = t.localMinute ∧ s.second = t.second ∧
    SameDigits s.fraction t.fraction

/- Written alike, `t` is later because of its zone, or because
   it goes on after `s` with more than zeros. -/
def LaterAlike (s t : Timestamp) : Prop :=
  t.zone.offsetMinutes < s.zone.offsetMinutes ∨
    t.zone.offsetMinutes = s.zone.offsetMinutes ∧
      ∃ d ∈ t.fraction.drop s.fraction.length, d ≠ 0

/-
  The time by which the texts are apart lies between zero and
  that by which the zones are.
-/
def Overturned (s t : Timestamp) : Prop :=
  let written := t.localSecond - s.localSecond
  let zones : Rat :=
    61 * (t.zone.offsetMinutes - s.zone.offsetMinutes)
  0 < written ∧ written ≤ zones ∨
    zones < written ∧ written < 0

/-
  The pairs whose texts are not compared as the instants are:
  the letters decide, the zones decide, or the order of the
  written times is not that of the instants.
-/
def Misordered (s t : Timestamp) : Prop :=
  s.LettersDiffer t ∧
      ¬ (s.separator = .upper ↔ s.Before t) ∨
    ¬ s.LettersDiffer t ∧ s.WrittenAlike t ∧
      ¬ (ReadsFirst s.zone t.zone s.fraction t.fraction ↔
        s.LaterAlike t) ∨
    ¬ s.LettersDiffer t ∧ ¬ s.WrittenAlike t ∧
      s.Overturned t

variable {s t : Timestamp}

instance : Decidable (s.Before t) :=
  inferInstanceAs (Decidable (_ ∨ _))

instance : Decidable (s.LettersDiffer t) :=
  inferInstanceAs (Decidable (_ ∧ _))

instance : Decidable (s.WrittenAlike t) :=
  inferInstanceAs (Decidable (_ ∧ _ ∧ (_ ∨ _)))

instance : Decidable (s.LaterAlike t) :=
  inferInstanceAs (Decidable (_ ∨ _))

instance : Decidable (s.Overturned t) :=
  inferInstanceAs (Decidable (_ ∨ _))

instance
    {a b : Zone}
    {s t : List (Fin 10)} :
    Decidable (ReadsFirst a b s t) :=
  inferInstanceAs (Decidable (ite _ _ _))

instance : Decidable (s.Misordered t) :=
  inferInstanceAs (Decidable (_ ∨ _))

theorem lt_hundred
    {bound : Nat}
    {i : Fin bound}
    (hBound : bound ≤ 100) :
    i.val < 10 ^ 2 :=
  Nat.lt_of_lt_of_le i.isLt hBound

/- A capital letter comes first. -/
theorem text_less_of_lettersDiffer
    (hDiffer : s.LettersDiffer t) :
    less s.text t.text = true ↔ s.separator = .upper := by
  rcases hDiffer with ⟨hDate, hLetters⟩
  unfold less text
  rw [String.toList_ofList, String.toList_ofList]
  unfold chars
  rw [Date.lessChars_append_iff, hDate]
  simp only [Nat.lt_irrefl, false_or, true_and]
  unfold separatorChar
  cases hFirst : s.separator with
  | upper =>
      cases hSecond : t.separator with
      | upper => exact absurd (hFirst.trans hSecond.symm) hLetters
      | lower =>
          rw [lessChars_of_lt (by decide)]
          simp
  | lower =>
      cases hSecond : t.separator with
      | upper =>
          rw [lessChars_of_gt (by decide)]
          simp
      | lower => exact absurd (hFirst.trans hSecond.symm) hLetters

/- Otherwise the texts are compared field by field. -/
theorem text_less_iff
    (hLetters : ¬ s.LettersDiffer t) :
    less s.text t.text = true ↔
      s.localMinute < t.localMinute ∨
        s.localMinute = t.localMinute ∧
          (s.second < t.second ∨ s.second = t.second ∧
            lessChars s.tail t.tail = true) := by
  have hFirstHour := s.hour.isLt
  have hSecondHour := t.hour.isLt
  have hFirstMinute := s.minute.isLt
  have hSecondMinute := t.minute.isLt
  unfold less text
  rw [String.toList_ofList, String.toList_ofList]
  unfold chars
  rw [Date.lessChars_append_iff]
  by_cases hDate : s.date.dayNumber = t.date.dayNumber
  · have hChar : s.separatorChar = t.separatorChar := by
      unfold separatorChar
      rw [not_not.mp fun hNe => hLetters ⟨hDate, hNe⟩]
    rw [hChar, lessChars_cons_self,
      lessChars_decimal_append_iff (lt_hundred (by decide))
        (lt_hundred (by decide)),
      lessChars_cons_self,
      lessChars_decimal_append_iff (lt_hundred (by decide))
        (lt_hundred (by decide)),
      lessChars_cons_self,
      lessChars_decimal_append_iff (lt_hundred (by decide))
        (lt_hundred (by decide))]
    unfold localMinute
    rw [Fin.lt_def, Fin.ext_iff]
    generalize lessChars s.tail t.tail = after
    cases after with
    | true =>
        simp only [and_true]
        omega
    | false =>
        simp only [Bool.false_eq_true, and_false, or_false]
        omega
  · have hMinute : s.localMinute ≠ t.localMinute := by
      unfold localMinute
      omega
    simp only [hDate, hMinute, false_and, or_false]
    unfold localMinute
    omega

/- The second in its minute, with the fraction. -/
theorem second_bounds
    (stamp : Timestamp) :
    0 ≤ (stamp.second.val : Rat) +
        fractionValue stamp.fraction ∧
      (stamp.second.val : Rat) +
          fractionValue stamp.fraction <
        61 := by
  have hFraction := @fractionValue_bounds stamp.fraction
  have hNonneg : (0 : Rat) ≤ stamp.second.val :=
    Nat.cast_nonneg _
  have hSecond : (stamp.second.val : Rat) ≤ 60 := by
    exact_mod_cast Nat.le_of_lt_succ stamp.second.isLt
  constructor
  · linarith
  · linarith

/- Whole seconds are compared before the fractions. -/
theorem second_lt_iff :
    (s.second < t.second ∨ s.second = t.second ∧
        fractionValue s.fraction < fractionValue t.fraction) ↔
      (s.second.val : Rat) + fractionValue s.fraction <
        t.second.val + fractionValue t.fraction := by
  have hFirst := @fractionValue_bounds s.fraction
  have hSecond := @fractionValue_bounds t.fraction
  rw [Fin.lt_def, Fin.ext_iff]
  rcases Nat.lt_trichotomy s.second.val t.second.val with
    hLess | hSame | hGreater
  · have hStep : (s.second.val : Rat) + 1 ≤ t.second.val := by
      exact_mod_cast hLess
    constructor
    · intro _
      linarith
    · intro _
      exact Or.inl hLess
  · rw [hSame]
    simp
  · have hStep : (t.second.val : Rat) + 1 ≤ s.second.val := by
      exact_mod_cast hGreater
    constructor
    · omega
    · intro hLess
      linarith

/- The instants are the written times less the zones. -/
theorem before_iff :
    s.Before t ↔
      61 * ((t.zone.offsetMinutes : Rat) -
          s.zone.offsetMinutes) <
        t.localSecond - s.localSecond := by
  have hFirst := second_bounds s
  have hSecond := second_bounds t
  unfold Before localSecond
  rw [second_lt_iff]
  unfold utcMinute
  rcases Int.lt_trichotomy
      (s.localMinute - s.zone.offsetMinutes)
      (t.localMinute - t.zone.offsetMinutes) with
    hLess | hSame | hGreater
  · have hStep :
        (s.localMinute : Rat) - s.zone.offsetMinutes + 1 ≤
          t.localMinute - t.zone.offsetMinutes := by
      exact_mod_cast hLess
    constructor
    · intro _
      linarith
    · intro _
      exact Or.inl hLess
  · have hStep :
        (s.localMinute : Rat) - s.zone.offsetMinutes =
          t.localMinute - t.zone.offsetMinutes := by
      exact_mod_cast hSame
    constructor
    · rintro (hLess | ⟨_, hLess⟩)
      · omega
      · linarith
    · intro hLess
      exact Or.inr ⟨hSame, by linarith⟩
  · have hStep :
        (t.localMinute : Rat) - t.zone.offsetMinutes + 1 ≤
          s.localMinute - s.zone.offsetMinutes := by
      exact_mod_cast hGreater
    constructor
    · omega
    · intro hLess
      linarith

/- Written alike, the texts end before they differ. -/
theorem text_less_of_writtenAlike
    (hLetters : ¬ s.LettersDiffer t)
    (hAlike : s.WrittenAlike t) :
    less s.text t.text = true ↔
      ReadsFirst s.zone t.zone s.fraction t.fraction := by
  rcases hAlike with ⟨hMinute, hSecond, hSame⟩
  rw [text_less_iff hLetters]
  unfold tail
  rw [less_secfrac, less_of_sameDigits hSame]
  simp [hMinute, hSecond]

theorem before_of_writtenAlike
    (hAlike : s.WrittenAlike t) :
    s.Before t ↔ s.LaterAlike t := by
  rcases hAlike with ⟨hMinute, hSecond, hSame⟩
  unfold Before LaterAlike utcMinute
  rw [fractionValue_lt_of_sameDigits hSame]
  simp only [hMinute, hSecond, Fin.lt_irrefl, false_or,
    true_and]
  refine or_congr ?_ (and_congr ?_ Iff.rfl)
  · omega
  · omega

/- Otherwise the texts have the order of the written times. -/
theorem text_less_of_not_writtenAlike
    (hLetters : ¬ s.LettersDiffer t)
    (hNot : ¬ s.WrittenAlike t) :
    (less s.text t.text = true ↔
        s.localSecond < t.localSecond) ∧
      s.localSecond ≠ t.localSecond := by
  have hFirst := second_bounds s
  have hSecond := second_bounds t
  rw [text_less_iff hLetters]
  unfold localSecond
  rcases Int.lt_trichotomy s.localMinute t.localMinute with
    hLess | hMinute | hGreater
  · have hStep : (s.localMinute : Rat) + 1 ≤ t.localMinute := by
      exact_mod_cast hLess
    have hSeconds :
        61 * (s.localMinute : Rat) + s.second.val +
            fractionValue s.fraction <
          61 * t.localMinute + t.second.val +
            fractionValue t.fraction := by
      linarith
    exact ⟨by simp [hLess, hSeconds], hSeconds.ne⟩
  · rw [hMinute, add_assoc, add_assoc, add_lt_add_iff_left,
      ← second_lt_iff]
    simp only [Int.lt_irrefl, false_or, true_and]
    by_cases hWhole : s.second = t.second
    · have hDigits :
          ¬ SameDigits s.fraction t.fraction := fun hSame =>
        hNot ⟨hMinute, hWhole, hSame⟩
      rcases less_of_not_sameDigits hDigits with
        ⟨hTails, hNe⟩
      unfold tail
      rw [less_secfrac, hTails, hWhole]
      exact ⟨Iff.rfl, by simpa using hNe⟩
    · constructor
      · simp [hWhole]
      · intro hSame
        rcases Fin.lt_or_lt_of_ne hWhole with hLess | hGreater
        · have hSum := second_lt_iff.mp (Or.inl hLess)
          linarith
        · have hSum := second_lt_iff.mp (Or.inl hGreater)
          linarith
  · have hStep : (t.localMinute : Rat) + 1 ≤ s.localMinute := by
      exact_mod_cast hGreater
    have hSeconds :
        61 * (t.localMinute : Rat) + t.second.val +
            fractionValue t.fraction <
          61 * s.localMinute + s.second.val +
            fractionValue s.fraction := by
      linarith
    refine ⟨?_, hSeconds.ne'⟩
    simp [hGreater.ne', hGreater.not_gt, hSeconds.not_gt]

/- Of two differences, as written and of the zones. -/
private theorem positive_iff_greater_iff
    {written zones : Rat}
    (hApart : written ≠ 0) :
    ((0 < written ↔ zones < written) ↔
      ¬ (0 < written ∧ written ≤ zones ∨
        zones < written ∧ written < 0)) := by
  rcases lt_or_gt_of_ne hApart with hBehind | hAhead
  · simp [hBehind, hBehind.not_gt]
  · simp [hAhead, hAhead.not_gt]

/-
  The texts are compared as the instants are, but for the pairs
  that are misordered.
-/
theorem text_less_iff_before_iff :
    (less s.text t.text = true ↔ s.Before t) ↔
      ¬ s.Misordered t := by
  unfold Misordered
  by_cases hLetters : s.LettersDiffer t
  · rw [text_less_of_lettersDiffer hLetters]
    simp [hLetters]
  · by_cases hAlike : s.WrittenAlike t
    · rw [text_less_of_writtenAlike hLetters hAlike,
        before_of_writtenAlike hAlike]
      simp [hLetters, hAlike]
    · rcases text_less_of_not_writtenAlike hLetters hAlike with
        ⟨hLess, hNe⟩
      have hApart : t.localSecond - s.localSecond ≠ 0 :=
        sub_ne_zero.mpr hNe.symm
      rw [hLess, before_iff, ← sub_pos]
      simp only [hLetters, hAlike, false_and, false_or,
        not_false_iff, true_and]
      unfold Overturned
      exact positive_iff_greater_iff hApart

/- Whole seconds that are all written in one way. -/
theorem not_misordered
    (hSeparator : s.separator = t.separator)
    (hZone : s.zone = t.zone)
    (hFirst : s.fraction = [])
    (hSecond : t.fraction = []) :
    ¬ s.Misordered t := by
  have hLetters : ¬ s.LettersDiffer t :=
    fun hDiffer => hDiffer.2 hSeparator
  have hReads :
      ¬ ReadsFirst s.zone t.zone s.fraction t.fraction := by
    simp [ReadsFirst, hZone, hFirst, hSecond]
  have hLater : ¬ s.LaterAlike t := by
    simp [LaterAlike, hZone, hFirst, hSecond]
  have hOver : ¬ s.Overturned t := by
    unfold Overturned
    rw [hZone, sub_self, mul_zero]
    rintro (⟨hAhead, hAtMost⟩ | ⟨hAhead, hBehind⟩)
    · exact absurd hAtMost hAhead.not_ge
    · exact absurd hBehind hAhead.not_gt
  simp [Misordered, hLetters, hReads, hLater, hOver]

end Timestamp

end Rfc3339
