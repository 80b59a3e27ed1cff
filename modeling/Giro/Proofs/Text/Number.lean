import Giro.Proofs.Text.Decimal
import Giro.Text.Number

/-!
How the liberal reading of numbers and their writing go together. A number that is read never has
too many digits to be written, and a text of ASCII digits is read as its value in base ten.
-/

namespace Giro.Text

theorem decimalValue?_lt {c : Char} {value : Nat} (h : decimalValue? c = some value) :
    value < 10 := by
  obtain ⟨first, found, rfl⟩ := Option.map_eq_some_iff.mp h
  have range := List.find?_some found
  simp only [Bool.and_eq_true, decide_eq_true_eq] at range
  omega

theorem digitValues?_lt {text : List Char} {values : List Nat}
    (h : digitValues? text = some values) : ∀ value ∈ values, value < 10 := by
  fun_induction digitValues? text generalizing values with
  | case1 => contradiction
  | case2 => contradiction
  | case3 c value digit =>
      obtain rfl := Option.some.inj h
      simpa using decimalValue?_lt digit
  | case4 c value digit more ih =>
      obtain ⟨others, read, rfl⟩ := Option.map_eq_some_iff.mp h
      exact List.forall_mem_cons.mpr ⟨decimalValue?_lt digit, ih read⟩
  | case5 c value digit next more _ ih =>
      obtain ⟨others, read, rfl⟩ := Option.map_eq_some_iff.mp h
      exact List.forall_mem_cons.mpr ⟨decimalValue?_lt digit, ih read⟩

theorem foldl_digits_lt {values : List Nat} (digits : ∀ value ∈ values, value < 10) (n : Nat) :
    values.foldl (fun n value => 10 * n + value) n < (n + 1) * 10 ^ values.length := by
  induction values generalizing n with
  | nil => simp
  | cons value rest ih =>
      obtain ⟨first, others⟩ := List.forall_mem_cons.mp digits
      calc rest.foldl (fun n value => 10 * n + value) (10 * n + value)
          < (10 * n + value + 1) * 10 ^ rest.length := ih others _
        _ ≤ ((n + 1) * 10) * 10 ^ rest.length := Nat.mul_le_mul_right _ (by omega)
        _ = (n + 1) * 10 ^ (rest.length + 1) := by rw [Nat.mul_assoc, Nat.pow_succ']

theorem magnitude?_lt {limit n : Nat} {text : List Char} (h : magnitude? limit text = some n) :
    n < 10 ^ limit := by
  simp only [magnitude?] at h
  split at h
  · contradiction
  · next values read =>
    obtain ⟨short, value⟩ := Option.ite_none_right_eq_some.mp h
    obtain rfl := Option.some.inj value
    calc values.foldl (fun n value => 10 * n + value) 0
        < (0 + 1) * 10 ^ values.length := foldl_digits_lt (digitValues?_lt read) 0
      _ ≤ 10 ^ limit := by simpa using Nat.pow_le_pow_right (by decide) short

/-- A number that is read has no more digits than the limit. -/
theorem readWhole?_lt {limit : Nat} {text : List Char} {value : Int}
    (h : readWhole? limit text = some value) : value.toNat < 10 ^ limit := by
  simp only [readWhole?] at h
  split at h
  · obtain ⟨n, -, rfl⟩ := Option.map_eq_some_iff.mp h
    have nothing : (Int.negOfNat n).toNat = 0 := by
      rw [Int.toNat_eq_zero, Int.negOfNat_eq, Int.ofNat_eq_natCast]
      omega
    rw [nothing]
    exact Nat.pow_pos (by decide)
  · obtain ⟨n, read, rfl⟩ := Option.map_eq_some_iff.mp h
    exact magnitude?_lt read
  · obtain ⟨n, read, rfl⟩ := Option.map_eq_some_iff.mp h
    exact magnitude?_lt read

theorem writeWhole_eq_ok_iff {limit n : Nat} {text : String} (positive : 0 < n) :
    writeWhole limit n = .ok text ↔ n < 10 ^ limit ∧ text = toString n := by
  simp only [writeWhole, Nat.toString_eq_ofList_toDigits]
  split
  · next short =>
    have small := (length_toDigits_le_iff positive limit).mp short
    simp [small, eq_comm]
  · next long =>
    have large := mt (length_toDigits_le_iff positive limit).mpr long
    simp [large]

/-- What was read can be written again. -/
theorem writeWhole_of_readWhole? {limit : Nat} {text : List Char} {value : Int}
    (h : readWhole? limit text = some value) (positive : 0 < value) :
    writeWhole limit value.toNat = .ok (toString value.toNat) :=
  (writeWhole_eq_ok_iff (by omega)).mpr ⟨readWhole?_lt h, rfl⟩

theorem decimalValue?_of_isDigit {c : Char} (h : c.isDigit = true) :
    decimalValue? c = some (c.toNat - 48) := by
  have bounds := digit_bounds h
  have first : decimalZeros.find? (fun first => first ≤ c.toNat && c.toNat < first + 10) =
      some 48 := by
    rw [decimalZeros, List.find?_cons_of_pos]
    simp only [Bool.and_eq_true, decide_eq_true_eq]
    omega
  rw [decimalValue?, first, Option.map_some]

theorem digitValues?_of_isDigit {c : Char} {rest : List Char}
    (h : ∀ d ∈ c :: rest, d.isDigit = true) :
    digitValues? (c :: rest) = some ((c :: rest).map fun d => d.toNat - 48) := by
  induction rest generalizing c with
  | nil => simp [digitValues?, decimalValue?_of_isDigit (h c List.mem_cons_self)]
  | cons d rest ih =>
      obtain ⟨first, others⟩ := List.forall_mem_cons.mp h
      have digit : d ≠ '_' := by
        rintro rfl
        exact absurd (others '_' List.mem_cons_self) (by decide)
      rw [digitValues?]
      simp only [decimalValue?_of_isDigit first]
      rw [ih others]
      rfl

theorem isBlank_of_isDigit {c : Char} (h : c.isDigit = true) : isBlank c = false := by
  have bounds := digit_bounds h
  rw [← Bool.not_eq_true, isBlank, Ranges.covers_iff]
  rintro ⟨range, member, lower, upper⟩
  simp only [blankRanges, List.mem_cons, List.not_mem_nil, or_false] at member
  rcases member with rfl | rfl | rfl | rfl | rfl | rfl | rfl | rfl | rfl | rfl <;> omega

theorem withoutMargins_of_isDigit {text : List Char} (h : ∀ d ∈ text, d.isDigit = true) :
    withoutMargins text = text := by
  have kept : ∀ text : List Char, (∀ d ∈ text, d.isDigit = true) →
      text.dropWhile isMargin = text := by
    intro text digits
    cases text with
    | nil => rfl
    | cons c rest =>
        have digit := digits c List.mem_cons_self
        rw [List.dropWhile_cons_of_neg]
        simp [isMargin, isBlank_of_isDigit digit]
  rw [withoutMargins, kept text h, kept text.reverse (by simpa using h), List.reverse_reverse]

/-- Digits of the ASCII range are read as what they stand for in base ten. -/
theorem readWhole?_of_isDigit {limit : Nat} {text : List Char} (nonempty : text ≠ [])
    (digits : ∀ d ∈ text, d.isDigit = true) (short : text.length ≤ limit) :
    readWhole? limit text = some (Nat.ofDigitChars 10 text 0 : Int) := by
  obtain ⟨c, rest, rfl⟩ := List.exists_cons_of_ne_nil nonempty
  have digit := digits c List.mem_cons_self
  have value : magnitude? limit (c :: rest) = some (Nat.ofDigitChars 10 (c :: rest) 0) := by
    rw [magnitude?, digitValues?_of_isDigit digits]
    simp only [List.length_map, short, if_true, List.foldl_map, Nat.ofDigitChars]
    rfl
  rw [readWhole?, withoutMargins_of_isDigit digits]
  split
  · next same =>
    obtain ⟨rfl, -⟩ := List.cons.inj same
    exact absurd digit (by decide)
  · next same =>
    obtain ⟨rfl, -⟩ := List.cons.inj same
    exact absurd digit (by decide)
  · rw [value, Option.map_some]
    rfl

end Giro.Text
