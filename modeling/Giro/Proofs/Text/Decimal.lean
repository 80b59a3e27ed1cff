import Mathlib.Algebra.Group.Nat.Defs
import Giro.Calendar.Day

/-!
Numbers and their decimal digits. Runs of digits of one length are told apart by their values, so
a run with no zero at its head is the text of its value, and any run is its value padded with
zeros to the length of the run.
-/

namespace Giro.Text

theorem digit_bounds {c : Char} (h : c.isDigit = true) : 48 ≤ c.toNat ∧ c.toNat ≤ 57 := by
  simp only [Char.isDigit, Bool.and_eq_true, decide_eq_true_eq, ge_iff_le, UInt32.le_iff_toNat_le]
    at h
  exact h

theorem isDigit_iff {c : Char} : c.isDigit = true ↔ '0' ≤ c ∧ c ≤ '9' := by
  simp only [Char.isDigit, Bool.and_eq_true, decide_eq_true_eq]
  rfl

theorem ofDigitChars_cons_zero (c : Char) (rest : List Char) :
    Nat.ofDigitChars 10 (c :: rest) 0 =
      10 ^ rest.length * (c.toNat - 48) + Nat.ofDigitChars 10 rest 0 := by
  rw [Nat.ofDigitChars_cons, Nat.ofDigitChars_eq_ofDigitChars_zero]
  simp

theorem ofDigitChars_lt {digits : List Char} (h : ∀ c ∈ digits, c.isDigit = true) :
    Nat.ofDigitChars 10 digits 0 < 10 ^ digits.length := by
  induction digits with
  | nil => simp
  | cons c rest ih =>
      have tail := ih fun d hd => h d (List.mem_cons_of_mem c hd)
      have bounds := digit_bounds (h c List.mem_cons_self)
      rw [ofDigitChars_cons_zero, List.length_cons, Nat.pow_succ]
      calc 10 ^ rest.length * (c.toNat - 48) + Nat.ofDigitChars 10 rest 0
          < 10 ^ rest.length * (c.toNat - 48) + 10 ^ rest.length := by omega
        _ = 10 ^ rest.length * (c.toNat - 48 + 1) := by rw [Nat.mul_add, Nat.mul_one]
        _ ≤ 10 ^ rest.length * 10 := Nat.mul_le_mul_left _ (by omega)

theorem ofDigitChars_inj {digits others : List Char} (hd : ∀ c ∈ digits, c.isDigit = true)
    (ho : ∀ c ∈ others, c.isDigit = true) (length : digits.length = others.length)
    (value : Nat.ofDigitChars 10 digits 0 = Nat.ofDigitChars 10 others 0) : digits = others := by
  induction digits generalizing others with
  | nil => exact (List.length_eq_zero_iff.mp length.symm).symm
  | cons c rest ih =>
      cases others with
      | nil => simp at length
      | cons d rest' =>
          have hrest := fun x hx => hd x (List.mem_cons_of_mem c hx)
          have hrest' := fun x hx => ho x (List.mem_cons_of_mem d hx)
          have same : rest.length = rest'.length := by simpa using length
          have bound := ofDigitChars_lt hrest
          have bound' := ofDigitChars_lt hrest'
          rw [ofDigitChars_cons_zero, ofDigitChars_cons_zero, same] at value
          rw [same] at bound
          -- Equal sums with both remainders below the power have equal quotients.
          have heads : c.toNat - 48 = d.toNat - 48 := by
            have positive : 0 < 10 ^ rest'.length := Nat.pow_pos (by decide)
            have quotients := congrArg (· / 10 ^ rest'.length) value
            simpa only [Nat.mul_add_div positive, Nat.div_eq_of_lt bound,
              Nat.div_eq_of_lt bound', Nat.add_zero] using quotients
          have tails : Nat.ofDigitChars 10 rest 0 = Nat.ofDigitChars 10 rest' 0 := by
            rw [heads] at value
            omega
          have hc := digit_bounds (hd c List.mem_cons_self)
          have hd' := digit_bounds (ho d List.mem_cons_self)
          have chars : c = d := Char.toNat_inj.mp (by omega)
          rw [chars, ih hrest hrest' same tails]

theorem isDigit_of_mem_toDigits {n : Nat} {c : Char} (h : c ∈ Nat.toDigits 10 n) :
    c.isDigit = true :=
  Nat.isDigit_of_mem_toDigits (by decide) (by decide) h

theorem length_toDigits_le_iff {n : Nat} (positive : 0 < n) (width : Nat) :
    (Nat.toDigits 10 n).length ≤ width ↔ n < 10 ^ width := by
  cases width with
  | zero =>
      have := Nat.length_toDigits_pos (b := 10) (n := n)
      rw [Nat.pow_zero]
      omega
  | succ width => exact Nat.length_toDigits_le_iff (by decide) (Nat.succ_pos width)

/-- A run of digits with no zero at its head is the text of its value. -/
theorem toDigits_ofDigitChars {c : Char} {rest : List Char}
    (h : ∀ d ∈ c :: rest, d.isDigit = true) (lead : c ≠ '0') :
    Nat.toDigits 10 (Nat.ofDigitChars 10 (c :: rest) 0) = c :: rest := by
  have upper := ofDigitChars_lt h
  have lower : 10 ^ rest.length ≤ Nat.ofDigitChars 10 (c :: rest) 0 := by
    have bounds := digit_bounds (h c List.mem_cons_self)
    have positive : c.toNat ≠ 48 := fun eq => lead (Char.toNat_inj.mp eq)
    rw [ofDigitChars_cons_zero]
    exact Nat.le_add_right_of_le (Nat.le_mul_of_pos_right _ (by omega))
  refine ofDigitChars_inj (fun _ => isDigit_of_mem_toDigits) h ?_ Nat.ofDigitChars_ten_toDigits
  generalize Nat.ofDigitChars 10 (c :: rest) 0 = n at upper lower
  have positive : 0 < n := Nat.lt_of_lt_of_le (Nat.pow_pos (by decide)) lower
  have most := (length_toDigits_le_iff positive (c :: rest).length).mpr upper
  have least : ¬ (Nat.toDigits 10 n).length ≤ rest.length := by
    rw [length_toDigits_le_iff positive]
    omega
  rw [List.length_cons] at most ⊢
  omega

theorem toDigits_ne_cons_zero {n : Nat} (positive : 0 < n) (rest : List Char) :
    Nat.toDigits 10 n ≠ '0' :: rest := by
  intro eq
  have digits : ∀ c ∈ rest, c.isDigit = true := fun c hc =>
    isDigit_of_mem_toDigits (eq ▸ List.mem_cons_of_mem '0' hc)
  have value : n = Nat.ofDigitChars 10 rest 0 := by
    rw [← Nat.ofDigitChars_ten_toDigits (n := n), eq, Nat.ofDigitChars_cons]
    rfl
  have short := (length_toDigits_le_iff positive rest.length).mpr (value ▸ ofDigitChars_lt digits)
  rw [eq, List.length_cons] at short
  omega

theorem isDigit_of_mem_padded {width n : Nat} {c : Char} (h : c ∈ Day.padded width n) :
    c.isDigit = true := by
  simp only [Day.padded, List.mem_append, List.mem_replicate] at h
  obtain ⟨-, rfl⟩ | h := h
  · decide
  · exact isDigit_of_mem_toDigits h

theorem length_padded {width n : Nat} (positive : 0 < width) (h : n < 10 ^ width) :
    (Day.padded width n).length = width := by
  have fits := (Nat.length_toDigits_le_iff (by decide) positive).mpr h
  simp only [Day.padded, List.length_append, List.length_replicate]
  omega

theorem ofDigitChars_padded (width n : Nat) :
    Nat.ofDigitChars 10 (Day.padded width n) 0 = n := by
  rw [Day.padded, Nat.ofDigitChars_append, Nat.ofDigitChars_replicate_zero, Nat.mul_zero]
  exact Nat.ofDigitChars_ten_toDigits

/-- A run of digits is its value padded to the length of the run. -/
theorem padded_ofDigitChars {digits : List Char} (h : ∀ c ∈ digits, c.isDigit = true)
    (nonempty : digits ≠ []) :
    Day.padded digits.length (Nat.ofDigitChars 10 digits 0) = digits :=
  ofDigitChars_inj (fun _ => isDigit_of_mem_padded) h
    (length_padded (List.length_pos_iff.mpr nonempty) (ofDigitChars_lt h))
    (ofDigitChars_padded _ _)

end Giro.Text
