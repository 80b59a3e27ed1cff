/-!
Calendar days of the Gregorian calendar, their order, their text and their number counted from
1 January 1970. The conversion counts from 1 March, so that a leap day ends its year, and works in
cycles of 400 years.
-/

namespace Giro

structure Day where
  year : Int
  month : Nat
  day : Nat
  deriving DecidableEq, Repr

namespace Day

/-- Calendar order: by year, then month, then day. -/
def before (a b : Day) : Bool :=
  a.year < b.year ∨ (a.year = b.year ∧ (a.month < b.month ∨ (a.month = b.month ∧ a.day < b.day)))

/-- The day with this number; day 0 is 1 January 1970. -/
def ofNumber (number : Int) : Day :=
  let shifted := number + 719468
  let era := shifted / 146097
  let dayOfEra := (shifted % 146097).toNat
  let yearOfEra := (dayOfEra - dayOfEra / 1460 + dayOfEra / 36524 - dayOfEra / 146096) / 365
  let dayOfYear := dayOfEra - (365 * yearOfEra + yearOfEra / 4 - yearOfEra / 100)
  let march := (5 * dayOfYear + 2) / 153
  let month := if march < 10 then march + 3 else march - 9
  { year := yearOfEra + era * 400 + (if month ≤ 2 then 1 else 0)
    month
    day := dayOfYear - (153 * march + 2) / 5 + 1 }

/-- Digits with zeros in front up to a width. -/
def padded (width n : Nat) : List Char :=
  let digits := Nat.toDigits 10 n
  List.replicate (width - digits.length) '0' ++ digits

/-- The text `YYYY-MM-DD`, for years from 0 to 9999. -/
def text (d : Day) : String :=
  .ofList (padded 4 d.year.toNat ++ '-' :: padded 2 d.month ++ '-' :: padded 2 d.day)

/-- The day written as four, two and two digits with hyphens between them; whether there is such a
day is not asked. -/
def ofDigits? : List Char → Option Day
  | [y1, y2, y3, y4, '-', m1, m2, '-', d1, d2] =>
      if [y1, y2, y3, y4, m1, m2, d1, d2].all Char.isDigit then
        some
          { year := Nat.ofDigitChars 10 [y1, y2, y3, y4] 0
            month := Nat.ofDigitChars 10 [m1, m2] 0
            day := Nat.ofDigitChars 10 [d1, d2] 0 }
      else none
  | _ => none

/-- Month and day lie in the ranges that some month has; lengths of months are not looked at. -/
def inRange (d : Day) : Bool :=
  1 ≤ d.month && d.month ≤ 12 && 1 ≤ d.day && d.day ≤ 31

theorem before_irrefl (a : Day) : a.before a = false := by
  simp [before]

theorem before_trans {a b c : Day} (hab : a.before b = true) (hbc : b.before c = true) :
    a.before c = true := by
  simp only [before, decide_eq_true_eq] at *
  omega

end Day
end Giro
