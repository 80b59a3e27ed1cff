import Mathlib.Order.Monotone.Basic
import Mathlib.Tactic.IntervalCases
import Giro.Calendar.Clock

/-!
The calendar behind the numbers of days. A number falls into an era of 400 years, a year that begins
in March, a month and a day, and its day is written out from these. The number after it is that of
the next day of the calendar, so that days stand in the order of their numbers.
-/

namespace Giro.Day

def isLeap (year : Int) : Bool :=
  year % 4 = 0 ∧ (year % 100 ≠ 0 ∨ year % 400 = 0)

def monthLength (year : Int) : Nat → Nat
  | 2 => if isLeap year then 29 else 28
  | 4 | 6 | 9 | 11 => 30
  | _ => 31

/-- The day after this one in the calendar. -/
def next (d : Day) : Day :=
  if d.day < monthLength d.year d.month then ⟨d.year, d.month, d.day + 1⟩
  else if d.month < 12 then ⟨d.year, d.month + 1, 1⟩
  else ⟨d.year + 1, 1, 1⟩

theorem before_next (d : Day) : d.before d.next = true := by
  rw [next]
  split
  · simp [before]
  · split
    · simp [before]
    · exact decide_eq_true (.inl (Int.lt_succ d.year))

/-- The year of an era, which begins in March, by the number of the day in the era. -/
def yearOfEra (day : Nat) : Nat :=
  (day - day / 1460 + day / 36524 - day / 146096) / 365

/-- The number in an era of the first day of March of a year. -/
def yearStart (year : Nat) : Nat :=
  365 * year + year / 4 - year / 100

/-- The days of a year from March to February. -/
def yearLength (year : Nat) : Nat :=
  if isLeap (year + 1) then 366 else 365

/-- The number in a year of the first day of a month, with March for month 0. -/
def monthStart (month : Nat) : Nat :=
  (153 * month + 2) / 5

/-- The days of a month of a year, with March for month 0. The last month is what is left of the
year. -/
def monthSize (year month : Nat) : Nat :=
  if month < 11 then monthStart (month + 1) - monthStart month
  else yearLength year - monthStart month

/-- The month that is counted from March, as it is counted from January. -/
def civilMonth (month : Nat) : Nat :=
  if month < 10 then month + 3 else month - 9

/-- The day at this place of an era, where January and February belong to the year that comes after
the one they end. -/
def ofPlace (era : Int) (year month day : Nat) : Day where
  year := year + era * 400 + if civilMonth month ≤ 2 then 1 else 0
  month := civilMonth month
  day := day + 1

/-- The number is that of this place, which lies inside the calendar. The eras are counted from the
first of March of year 0, which is 719468 days before 1970. -/
structure At (number era : Int) (year month day : Nat) : Prop where
  sum : number + 719468 = 146097 * era + (yearStart year + monthStart month + day : Nat)
  year_lt : year < 400
  month_lt : month < 12
  day_lt : day < monthSize year month

theorem yearOfEra_mono : Monotone yearOfEra := by
  refine monotone_nat_of_le_succ fun day => ?_
  exact Nat.div_le_div_right (by omega)

theorem yearOfEra_ends : ∀ year < 400, yearOfEra (yearStart year) = year ∧
    yearOfEra (yearStart year + yearLength year - 1) = year := by
  decide +kernel

theorem yearOfEra_eq {year day : Nat} (h : year < 400) (start : yearStart year ≤ day)
    (stop : day < yearStart year + yearLength year) : yearOfEra day = year := by
  obtain ⟨first, last⟩ := yearOfEra_ends year h
  apply Nat.le_antisymm
  · exact (yearOfEra_mono (Nat.le_sub_one_of_lt stop)).trans_eq last
  · exact first.symm.trans_le (yearOfEra_mono start)

theorem yearLength_cases (year : Nat) :
    isLeap (year + 1) = true ∧ yearLength year = 366 ∨
      isLeap (year + 1) = false ∧ yearLength year = 365 := by
  cases leap : isLeap (year + 1) <;> simp [yearLength, leap]

theorem yearStart_succ {year : Nat} (h : year < 399) :
    yearStart (year + 1) = yearStart year + yearLength year := by
  obtain ⟨leap, length⟩ | ⟨leap, length⟩ := yearLength_cases year <;>
    simp only [isLeap, decide_eq_true_eq, decide_eq_false_iff_not] at leap <;>
    simp only [length, yearStart] <;> omega

theorem isLeap_era (era : Int) (year : Nat) :
    isLeap (year + era * 400 + 1) = isLeap (year + 1) := by
  simp only [isLeap, decide_eq_decide]
  omega

theorem monthLength_ofPlace (era : Int) {year month : Nat} (h : month < 12) (day : Nat) :
    monthLength (ofPlace era year month day).year (ofPlace era year month day).month =
      monthSize year month := by
  interval_cases month <;> simp [ofPlace, civilMonth, monthLength, monthSize, monthStart]
  case «11» =>
    rw [isLeap_era, yearLength]
    split <;> rfl

theorem monthStart_succ (year : Nat) {month : Nat} (h : month < 11) :
    monthStart (month + 1) = monthStart month + monthSize year month := by
  rw [monthSize, if_pos h]
  simp only [monthStart]
  omega

theorem monthStart_february (year : Nat) : monthStart 11 + monthSize year 11 = yearLength year := by
  have size : monthSize year 11 = yearLength year - 337 := rfl
  have start : monthStart 11 = 337 := rfl
  have length := yearLength_cases year
  omega

theorem monthSize_pos (year : Nat) {month : Nat} (h : month < 12) : 0 < monthSize year month := by
  obtain early | rfl := (Nat.le_of_lt_succ h).lt_or_eq
  · have start := monthStart_succ year early
    simp only [monthStart] at start
    omega
  · have size := monthStart_february year
    have start : monthStart 11 = 337 := rfl
    have length := yearLength_cases year
    omega

theorem monthStart_add_monthSize_le (year : Nat) {month : Nat} (h : month < 12) :
    monthStart month + monthSize year month ≤ yearLength year := by
  obtain early | rfl := (Nat.le_of_lt_succ h).lt_or_eq
  · rw [← monthStart_succ year early]
    have length := yearLength_cases year
    simp only [monthStart]
    omega
  · exact (monthStart_february year).le

theorem yearStart_add_yearLength_le {year : Nat} (h : year < 400) :
    yearStart year + yearLength year ≤ 146097 := by
  obtain ⟨-, length⟩ | ⟨-, length⟩ := yearLength_cases year <;>
    simp only [length, yearStart] <;> omega

theorem month_eq {year month day : Nat} (h : month < 12) (inside : day < monthSize year month) :
    (5 * (monthStart month + day) + 2) / 153 = month := by
  have size := monthStart_add_monthSize_le year h
  obtain ⟨-, length⟩ | ⟨-, length⟩ := yearLength_cases year <;>
    simp only [monthSize, monthStart] at inside size ⊢ <;> split at inside <;> omega

/-- The parts of a day, as they are taken from its number. -/
theorem ofNumber_eq_ofPlace (number : Int) :
    let dayOfEra := ((number + 719468) % 146097).toNat
    let year := yearOfEra dayOfEra
    let dayOfYear := dayOfEra - yearStart year
    let month := (5 * dayOfYear + 2) / 153
    ofNumber number =
      ofPlace ((number + 719468) / 146097) year month (dayOfYear - monthStart month) :=
  rfl

theorem next_ofPlace (era : Int) (year : Nat) {month : Nat} (h : month < 12) (day : Nat) :
    (ofPlace era year month day).next =
      if day + 1 < monthSize year month then ofPlace era year month (day + 1)
      else if month < 11 then ofPlace era year (month + 1) 0
      else ofPlace era (year + 1) 0 0 := by
  rw [next, monthLength_ofPlace era h]
  refine if_congr Iff.rfl rfl ?_
  interval_cases month <;> simp [ofPlace, civilMonth]
  omega

theorem ofPlace_next_era (era : Int) : ofPlace era 400 0 0 = ofPlace (era + 1) 0 0 0 := by
  simp only [ofPlace, mk.injEq, and_self, and_true]
  omega

namespace At

section
variable {number era : Int} {year month day : Nat}

theorem ofNumber_eq (h : At number era year month day) :
    ofNumber number = ofPlace era year month day := by
  have sum := h.sum
  have inMonth := h.day_lt
  have inYear := monthStart_add_monthSize_le year h.month_lt
  have inEra := yearStart_add_yearLength_le h.year_lt
  have eraEq : (number + 719468) / 146097 = era := by omega
  have dayOfEra :
      ((number + 719468) % 146097).toNat = yearStart year + (monthStart month + day) := by
    omega
  have yearEq : yearOfEra (yearStart year + (monthStart month + day)) = year :=
    yearOfEra_eq h.year_lt (by omega) (by omega)
  rw [ofNumber_eq_ofPlace, eraEq, dayOfEra, yearEq, Nat.add_sub_cancel_left,
    month_eq h.month_lt h.day_lt, Nat.add_sub_cancel_left]

/-- The next number is that of the next day: one of the same month, the first of the next month, or
the first of a year, which may be that of an era. -/
theorem exists_succ (h : At number era year month day) :
    ∃ era' year' month' day', At (number + 1) era' year' month' day' ∧
      (ofPlace era year month day).next = ofPlace era' year' month' day' := by
  obtain ⟨sum, yearLt, monthLt, dayLt⟩ := h
  rw [next_ofPlace era year monthLt]
  obtain inside | last := (show day + 1 ≤ monthSize year month from dayLt).lt_or_eq
  · rw [if_pos inside]
    exact ⟨era, year, month, day + 1, ⟨by omega, yearLt, monthLt, inside⟩, rfl⟩
  rw [if_neg last.not_lt]
  obtain early | rfl := (Nat.le_of_lt_succ monthLt).lt_or_eq
  · rw [if_pos early]
    have start := monthStart_succ year early
    have monthLt' : month + 1 < 12 := by omega
    exact ⟨era, year, month + 1, 0,
      ⟨by omega, yearLt, monthLt', monthSize_pos year monthLt'⟩, rfl⟩
  rw [if_neg (by decide)]
  have length := monthStart_february year
  have start : monthStart 0 = 0 := rfl
  obtain early | rfl := (Nat.le_of_lt_succ yearLt).lt_or_eq
  · have start' := yearStart_succ early
    exact ⟨era, year + 1, 0, 0,
      ⟨by omega, by omega, by decide, monthSize_pos (year + 1) (by decide)⟩, rfl⟩
  · have stop : yearStart 399 + yearLength 399 = yearStart 0 + 146097 := by decide
    exact ⟨era + 1, 0, 0, 0, ⟨by omega, by decide, by decide, by decide⟩, ofPlace_next_era era⟩

end
end At

/-- Every number has a place. An era begins at the first of March of its year 0, and each number
after it is the next of one that has a place. -/
theorem exists_at (number : Int) : ∃ era year month day, At number era year month day := by
  have later (era : Int) (days : Nat) :
      ∃ era' year month day, At (146097 * era - 719468 + days) era' year month day := by
    induction days with
    | zero =>
        have sum : 146097 * era - 719468 + (0 : Nat) + 719468 =
            146097 * era + (yearStart 0 + monthStart 0 + 0 : Nat) := by
          simp [yearStart, monthStart]
        exact ⟨era, 0, 0, 0, ⟨sum, by decide, by decide, by decide⟩⟩
    | succ days ih =>
        obtain ⟨era', year, month, day, place⟩ := ih
        obtain ⟨era'', year', month', day', place', -⟩ := place.exists_succ
        exact ⟨era'', year', month', day', by simpa [Int.add_assoc] using place'⟩
  have place := later ((number + 719468) / 146097) ((number + 719468) % 146097).toNat
  have parts : 146097 * ((number + 719468) / 146097) - 719468 +
      ((number + 719468) % 146097).toNat = number := by
    omega
  rwa [parts] at place

/-- The day of the next number is the next day of the calendar. -/
theorem ofNumber_succ (number : Int) : ofNumber (number + 1) = (ofNumber number).next := by
  obtain ⟨era, year, month, day, place⟩ := exists_at number
  obtain ⟨era', year', month', day', place', next⟩ := place.exists_succ
  rw [place.ofNumber_eq, place'.ofNumber_eq, next]

example : ofNumber 0 = ⟨1970, 1, 1⟩ := by decide

theorem ofNumber_before_of_lt {m n : Int} (h : m < n) :
    (ofNumber m).before (ofNumber n) = true := by
  obtain ⟨days, rfl⟩ := Int.le.dest (Int.add_one_le_of_lt h)
  induction days with
  | zero =>
      rw [Int.ofNat_zero, Int.add_zero, ofNumber_succ]
      exact before_next (ofNumber m)
  | succ days ih =>
      refine before_trans (ih (by omega)) ?_
      rw [Int.natCast_succ, ← Int.add_assoc, ofNumber_succ]
      exact before_next (ofNumber (m + 1 + days))

/-- Days stand in the order of their numbers. -/
theorem ofNumber_before_iff {m n : Int} : (ofNumber m).before (ofNumber n) = true ↔ m < n := by
  refine ⟨fun earlier => ?_, ofNumber_before_of_lt⟩
  by_contra le
  obtain lt | rfl := (Int.not_lt.mp le).lt_or_eq
  · have around := before_trans earlier (ofNumber_before_of_lt lt)
    rw [before_irrefl] at around
    contradiction
  · rw [before_irrefl] at earlier
    contradiction

end Giro.Day
