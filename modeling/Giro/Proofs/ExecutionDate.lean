import Mathlib.Data.List.Basic
import Giro.ExecutionDate
import Giro.Proofs.Text.Order

/-!
What a date is as a text: the text of a day of a four-digit year whose month and day are in range.
Such texts are in the order of their days, since the widths are fixed and the larger part stands
first, and this holds for days that no calendar has as well.
-/

namespace Giro.ExecutionDate

/-- The token is the text of this day, of a year from 0 to 9999 and in range. -/
structure Writes (token : String) (day : Day) : Prop where
  year_nonneg : 0 ≤ day.year
  year_lt : day.year < 10000
  inRange : day.inRange = true
  eq_text : token = day.text

/-- The text of a day, as the digits of its year, month and day. -/
def digits (day : Day) : List Char :=
  Day.padded 4 day.year.toNat ++ '-' :: Day.padded 2 day.month ++ '-' :: Day.padded 2 day.day

theorem toList_text (day : Day) : day.text.toList = digits day :=
  String.toList_ofList

theorem ofDigits?_eq_some {text : List Char} {day : Day} (h : Day.ofDigits? text = some day) :
    0 ≤ day.year ∧ day.year < 10000 ∧ day.month < 100 ∧ day.day < 100 ∧ text = digits day := by
  simp only [Day.ofDigits?] at h
  split at h
  · next y1 y2 y3 y4 m1 m2 d1 d2 =>
    simp only [Option.ite_none_right_eq_some, Option.some.injEq, List.all_cons, List.all_nil,
      Bool.and_true, Bool.and_eq_true] at h
    obtain ⟨⟨hy1, hy2, hy3, hy4, hm1, hm2, hd1, hd2⟩, rfl⟩ := h
    have year : ∀ c ∈ [y1, y2, y3, y4], c.isDigit = true := by simp [*]
    have month : ∀ c ∈ [m1, m2], c.isDigit = true := by simp [*]
    have day : ∀ c ∈ [d1, d2], c.isDigit = true := by simp [*]
    have hyear := Text.ofDigitChars_lt year
    refine ⟨by simp, ?_, Text.ofDigitChars_lt month, Text.ofDigitChars_lt day, ?_⟩
    · simp only [List.length_cons, List.length_nil] at hyear ⊢
      omega
    · rw [digits, Int.toNat_natCast]
      rw [show 4 = [y1, y2, y3, y4].length from rfl, Text.padded_ofDigitChars year (by simp)]
      have m := Text.padded_ofDigitChars month (by simp)
      have d := Text.padded_ofDigitChars day (by simp)
      simp only [List.length_cons, List.length_nil, Nat.zero_add, Nat.reduceAdd] at m d
      rw [m, d]
      rfl
  · simp at h

theorem ofDigits?_digits {day : Day} (nonneg : 0 ≤ day.year) (year : day.year < 10000)
    (month : day.month < 100) (hday : day.day < 100) : Day.ofDigits? (digits day) = some day := by
  have hy := Text.length_padded (show 0 < 4 by decide) (show day.year.toNat < 10 ^ 4 by omega)
  have hm := Text.length_padded (show 0 < 2 by decide) month
  have hd := Text.length_padded (show 0 < 2 by decide) hday
  obtain ⟨y1, y2, y3, y4, years⟩ := List.length_eq_four.mp hy
  obtain ⟨m1, m2, months⟩ := List.length_eq_two.mp hm
  obtain ⟨d1, d2, days⟩ := List.length_eq_two.mp hd
  have allYear : ∀ c ∈ [y1, y2, y3, y4], c.isDigit = true := fun _ hc =>
    Text.isDigit_of_mem_padded (years ▸ hc)
  have allMonth : ∀ c ∈ [m1, m2], c.isDigit = true := fun _ hc =>
    Text.isDigit_of_mem_padded (months ▸ hc)
  have allDay : ∀ c ∈ [d1, d2], c.isDigit = true := fun _ hc =>
    Text.isDigit_of_mem_padded (days ▸ hc)
  have valueYear := years ▸ Text.ofDigitChars_padded 4 day.year.toNat
  have valueMonth := months ▸ Text.ofDigitChars_padded 2 day.month
  have valueDay := days ▸ Text.ofDigitChars_padded 2 day.day
  simp only [List.forall_mem_cons] at allYear allMonth allDay
  rw [digits, years, months, days]
  simp only [Day.ofDigits?, List.cons_append, List.nil_append, List.all_cons, List.all_nil,
    allYear, allMonth, allDay, Bool.and_true, if_true, valueYear, valueMonth, valueDay,
    Int.toNat_of_nonneg nonneg]

theorem parse?_eq_some_iff {token : String} {day : Day} :
    parse? token = some day ↔ Writes token day := by
  rw [parse?, Option.filter_eq_some_iff]
  constructor
  · rintro ⟨read, inRange⟩
    obtain ⟨nonneg, year, -, -, text⟩ := ofDigits?_eq_some read
    exact ⟨nonneg, year, inRange, by rw [← String.toList_inj, text, toList_text]⟩
  · rintro ⟨nonneg, year, inRange, rfl⟩
    have bounds := inRange
    simp only [Day.inRange, Bool.and_eq_true, decide_eq_true_eq] at bounds
    rw [toList_text]
    exact ⟨ofDigits?_digits nonneg year (by omega) (by omega), inRange⟩

theorem Writes.unique {token : String} {day other : Day} (h : Writes token day)
    (h' : Writes token other) : day = other := by
  rw [← parse?_eq_some_iff] at h h'
  exact Option.some.inj (h.symm.trans h')

/-- The token is made of these runs of four, two and two ASCII digits with hyphens between them. -/
structure Spells (token : String) (years months days : List Char) : Prop where
  eq_append : token.toList = years ++ '-' :: months ++ '-' :: days
  length_years : years.length = 4
  length_months : months.length = 2
  length_days : days.length = 2
  ascii : ∀ c ∈ years ++ months ++ days, '0' ≤ c ∧ c ≤ '9'

section
variable {token : String} {years months days : List Char} {day : Day}

/-- A run of digits has a value below the power of its length, and is this value padded. -/
theorem padded_value {run : List Char} {width : Nat} (length : run.length = width + 1)
    (ascii : ∀ c ∈ run, '0' ≤ c ∧ c ≤ '9') :
    Nat.ofDigitChars 10 run 0 < 10 ^ (width + 1) ∧
      Day.padded (width + 1) (Nat.ofDigitChars 10 run 0) = run := by
  have digits : ∀ c ∈ run, c.isDigit = true := fun c hc => Text.isDigit_iff.mpr (ascii c hc)
  have nonempty : run ≠ [] := List.ne_nil_of_length_eq_add_one length
  rw [← length]
  exact ⟨Text.ofDigitChars_lt digits, Text.padded_ofDigitChars digits nonempty⟩

theorem Spells.ofDigits?_eq (h : Spells token years months days) :
    Day.ofDigits? token.toList = some
      ⟨Nat.ofDigitChars 10 years 0, Nat.ofDigitChars 10 months 0, Nat.ofDigitChars 10 days 0⟩ := by
  obtain ⟨eq, hyears, hmonths, hdays, ascii⟩ := h
  simp only [List.forall_mem_append] at ascii
  obtain ⟨yearBound, years_eq⟩ := padded_value hyears ascii.1.1
  obtain ⟨monthBound, months_eq⟩ := padded_value hmonths ascii.1.2
  obtain ⟨dayBound, days_eq⟩ := padded_value hdays ascii.2
  have text : token.toList = digits
      ⟨Nat.ofDigitChars 10 years 0, Nat.ofDigitChars 10 months 0, Nat.ofDigitChars 10 days 0⟩ := by
    rw [eq, digits, Int.toNat_natCast, years_eq, months_eq, days_eq]
  have year : (Nat.ofDigitChars 10 years 0 : Int) < 10000 := by omega
  rw [text]
  exact ofDigits?_digits (Int.natCast_nonneg _) year monthBound dayBound

theorem exists_spells (h : Day.ofDigits? token.toList = some day) :
    ∃ years months days, Spells token years months days ∧
      Nat.ofDigitChars 10 months 0 = day.month ∧ Nat.ofDigitChars 10 days 0 = day.day := by
  obtain ⟨nonneg, year, month, hday, text⟩ := ofDigits?_eq_some h
  refine ⟨_, _, _, ⟨text, ?_, ?_, ?_, ?_⟩, Text.ofDigitChars_padded _ _, Text.ofDigitChars_padded _ _⟩
  · exact Text.length_padded (by decide) (by omega)
  · exact Text.length_padded (by decide) month
  · exact Text.length_padded (by decide) hday
  · intro c member
    simp only [List.mem_append] at member
    obtain (digit | digit) | digit := member <;>
      exact Text.isDigit_iff.mp (Text.isDigit_of_mem_padded digit)

theorem ofDigits?_eq_none_iff :
    Day.ofDigits? token.toList = none ↔ ¬ ∃ years months days, Spells token years months days := by
  constructor
  · rintro none ⟨years, months, days, spells⟩
    rw [spells.ofDigits?_eq] at none
    contradiction
  · intro unspelled
    cases read : Day.ofDigits? token.toList with
    | none => rfl
    | some day =>
        obtain ⟨years, months, days, spells, -⟩ := exists_spells read
        exact absurd ⟨years, months, days, spells⟩ unspelled

theorem valid?_eq_some_iff {result : String} :
    valid? token = some result ↔ result = token ∧ ∃ day, Writes token day := by
  rw [valid?, Option.ite_none_right_eq_some, Option.isSome_iff_exists, Option.some.injEq, and_comm,
    eq_comm]
  simp only [parse?_eq_some_iff]

/-- A token is the text of a day if it has the form of one and its month and day are in range. -/
theorem exists_writes_iff :
    (∃ day, Writes token day) ↔ ∃ years months days, Spells token years months days ∧
      1 ≤ Nat.ofDigitChars 10 months 0 ∧ Nat.ofDigitChars 10 months 0 ≤ 12 ∧
      1 ≤ Nat.ofDigitChars 10 days 0 ∧ Nat.ofDigitChars 10 days 0 ≤ 31 := by
  simp only [← parse?_eq_some_iff, parse?, Option.filter_eq_some_iff, Day.inRange, Bool.and_eq_true,
    decide_eq_true_eq]
  constructor
  · rintro ⟨day, read, ⟨⟨month, month'⟩, lower⟩, upper⟩
    obtain ⟨years, months, days, spells, months_eq, days_eq⟩ := exists_spells read
    rw [← months_eq] at month month'
    rw [← days_eq] at lower upper
    exact ⟨years, months, days, spells, month, month', lower, upper⟩
  · rintro ⟨years, months, days, spells, month, month', lower, upper⟩
    exact ⟨_, spells.ofDigits?_eq, ⟨⟨month, month'⟩, lower⟩, upper⟩

/-- The texts of days of four-digit years are in the order of the days. -/
theorem text_lt_text_iff {a b : Day} (ha : 0 ≤ a.year ∧ a.year ≤ 9999) (inRange : a.inRange = true)
    (hb : 0 ≤ b.year ∧ b.year ≤ 9999) (inRange' : b.inRange = true) :
    a.text < b.text ↔ a.before b = true := by
  simp only [Day.inRange, Bool.and_eq_true, decide_eq_true_eq] at inRange inRange'
  have years := @Text.padded_lt_padded_iff 4 a.year.toNat b.year.toNat (by decide) (by omega)
    (by omega)
  have months := @Text.padded_lt_padded_iff 2 a.month b.month (by decide) (by omega) (by omega)
  have days := @Text.padded_lt_padded_iff 2 a.day b.day (by decide) (by omega) (by omega)
  have length (width : Nat) {m n : Nat} (hm : m < 10 ^ (width + 1)) (hn : n < 10 ^ (width + 1)) :
      (Day.padded (width + 1) m).length = (Day.padded (width + 1) n).length := by
    rw [Text.length_padded (Nat.succ_pos width) hm, Text.length_padded (Nat.succ_pos width) hn]
  rw [String.lt_iff, toList_text, toList_text, digits, digits, List.append_assoc, List.append_assoc,
    Text.append_lt_append_iff (length 3 (by omega) (by omega)), years, Text.padded_inj,
    List.cons_append, List.cons_append, List.cons_lt_cons_iff,
    Text.append_lt_append_iff (length 1 (by omega) (by omega)), months, Text.padded_inj,
    List.cons_lt_cons_iff, days]
  simp only [Day.before, decide_eq_true_eq, Char.lt_irrefl, false_or, true_and]
  omega

theorem isAfter_of_ofDigits? (h : Day.ofDigits? token.toList = some day) (today : Day) :
    isAfter token today = .ok (today.before day) := by
  simp only [isAfter, h]

theorem isAfter_eq_error_iff {today : Day} {fault : ShapeFault} :
    isAfter token today = .error fault ↔
      fault = ⟨token⟩ ∧ Day.ofDigits? token.toList = none := by
  cases read : Day.ofDigits? token.toList with
  | none => simp [isAfter, read, eq_comm]
  | some day => simp [isAfter, read]

end

/-- A token is taken if it has this one form, and it is its own result. To ask whether it lies after
a day needs the form alone, and the answer for one that is taken is the order of the two texts. -/
theorem dates_in_text_order :
    (∀ token result, valid? token = some result ↔ result = token ∧
      ∃ years months days, Spells token years months days ∧
        1 ≤ Nat.ofDigitChars 10 months 0 ∧ Nat.ofDigitChars 10 months 0 ≤ 12 ∧
        1 ≤ Nat.ofDigitChars 10 days 0 ∧ Nat.ofDigitChars 10 days 0 ≤ 31) ∧
    (∀ token today fault, isAfter token today = .error fault ↔
      fault = ⟨token⟩ ∧ ¬ ∃ years months days, Spells token years months days) ∧
    (∀ token today, valid? token = some token → ∃ later, isAfter token today = .ok later) ∧
    ∀ token today, valid? token = some token → 1 ≤ today.year → today.year ≤ 9999 →
      today.inRange = true → (isAfter token today = .ok true ↔ today.text < token) := by
  have writes_of_valid : ∀ {token}, valid? token = some token → ∃ day, Writes token day :=
    fun valid => (valid?_eq_some_iff.mp valid).2
  have answer : ∀ {token day} (today : Day), Writes token day →
      isAfter token today = .ok (today.before day) := by
    intro token day today writes
    have read := parse?_eq_some_iff.mpr writes
    rw [parse?, Option.filter_eq_some_iff] at read
    exact isAfter_of_ofDigits? read.1 today
  refine ⟨?accepted, ?fails, ?answers, ?order⟩
  case accepted =>
    intro token result
    rw [valid?_eq_some_iff, exists_writes_iff]
  case fails =>
    intro token today fault
    rw [isAfter_eq_error_iff, ofDigits?_eq_none_iff]
  case answers =>
    intro token today valid
    obtain ⟨day, writes⟩ := writes_of_valid valid
    exact ⟨_, answer today writes⟩
  case order =>
    intro token today valid first last inRange
    obtain ⟨day, writes⟩ := writes_of_valid valid
    have year := writes.year_lt
    rw [answer today writes, Except.ok.injEq, writes.eq_text, text_lt_text_iff ⟨by omega, last⟩
      inRange ⟨writes.year_nonneg, by omega⟩ writes.inRange]

/-- A date that no calendar has is after the last day of its month, the year zero is before every
other, and the digits of another script are no date. -/
theorem dates_in_text_order_of_long_month :
    valid? "2024-02-31" = some "2024-02-31" ∧
    isAfter "2024-02-31" ⟨2024, 2, 29⟩ = .ok true ∧
    valid? "0000-12-31" = some "0000-12-31" ∧
    ¬ isAfter "0000-12-31" ⟨999, 1, 1⟩ = .ok true ∧
    isAfter "２０２４-02-29" ⟨2024, 2, 29⟩ = .error ⟨"２０２４-02-29"⟩ := by
  obtain ⟨-, fails, -, order⟩ := dates_in_text_order
  have long : valid? "2024-02-31" = some "2024-02-31" := by decide +kernel
  have early : valid? "0000-12-31" = some "0000-12-31" := by decide +kernel
  refine ⟨long, ?_, early, ?_, (fails _ _ _).mpr ⟨rfl, ?_⟩⟩
  · exact (order _ ⟨2024, 2, 29⟩ long (by decide) (by decide) (by decide)).mpr (by decide +kernel)
  · rw [order _ ⟨999, 1, 1⟩ early (by decide) (by decide) (by decide)]
    decide +kernel
  · rw [← ofDigits?_eq_none_iff]
    decide +kernel

end Giro.ExecutionDate
