import Giro.Proofs.Text.Decimal

/-!
The order of texts by their code points, on runs of digits. Runs of one length stand in the order of
their values, and where two texts begin with runs of one length what follows the runs counts only
when these are equal. So numbers padded to one width are ordered as texts like numbers.
-/

namespace Giro.Text

/-- Of two texts that begin with parts of one length, the parts decide before what follows them. -/
theorem append_lt_append_iff {first second front back : List Char}
    (length : first.length = second.length) :
    first ++ front < second ++ back ↔ first < second ∨ (first = second ∧ front < back) := by
  induction first generalizing second with
  | nil =>
      obtain rfl := List.length_eq_zero_iff.mp length.symm
      simp
  | cons c rest ih =>
      cases second with
      | nil => simp at length
      | cons d rest' =>
          have same : rest.length = rest'.length := by simpa using length
          rw [List.cons_append, List.cons_append, List.cons_lt_cons_iff, List.cons_lt_cons_iff,
            List.cons.injEq, ih same]
          rw [and_or_left, or_assoc, and_assoc]

/-- Of two sums of a multiple of one number and a rest below it, the multiples decide first. -/
theorem mul_add_lt_mul_add_iff {n a b r s : Nat} (hr : r < n) (hs : s < n) :
    n * a + r < n * b + s ↔ a < b ∨ (a = b ∧ r < s) := by
  have next : ∀ {x y : Nat}, x < y → n * x + n ≤ n * y := by
    intro x y less
    rw [← Nat.mul_succ]
    exact Nat.mul_le_mul_left n less
  constructor
  · intro less
    rcases Nat.lt_trichotomy a b with below | rfl | above
    · exact .inl below
    · exact .inr ⟨rfl, by omega⟩
    · have := next above
      omega
  · rintro (below | ⟨rfl, less⟩)
    · have := next below
      omega
    · omega

theorem digit_lt_iff {c d : Char} (hc : c.isDigit = true) (hd : d.isDigit = true) :
    c < d ↔ c.toNat - 48 < d.toNat - 48 := by
  have bounds := digit_bounds hc
  have bounds' := digit_bounds hd
  rw [Char.lt_def, UInt32.lt_iff_toNat_lt, Char.toNat_val, Char.toNat_val]
  omega

theorem ofDigitChars_lt_iff {digits others : List Char} (hd : ∀ c ∈ digits, c.isDigit = true)
    (ho : ∀ c ∈ others, c.isDigit = true) (length : digits.length = others.length) :
    Nat.ofDigitChars 10 digits 0 < Nat.ofDigitChars 10 others 0 ↔ digits < others := by
  induction digits generalizing others with
  | nil =>
      obtain rfl := List.length_eq_zero_iff.mp length.symm
      simp
  | cons c rest ih =>
      cases others with
      | nil => simp at length
      | cons d rest' =>
          obtain ⟨digit, hrest⟩ := List.forall_mem_cons.mp hd
          obtain ⟨digit', hrest'⟩ := List.forall_mem_cons.mp ho
          have same : rest.length = rest'.length := by simpa using length
          have bound := ofDigitChars_lt hrest
          have bound' := ofDigitChars_lt hrest'
          have chars : c = d ↔ c.toNat - 48 = d.toNat - 48 := by
            have range := digit_bounds digit
            have range' := digit_bounds digit'
            rw [← Char.toNat_inj]
            omega
          rw [same] at bound
          rw [ofDigitChars_cons_zero, ofDigitChars_cons_zero, same,
            mul_add_lt_mul_add_iff bound bound', List.cons_lt_cons_iff, digit_lt_iff digit digit',
            chars, ih hrest hrest' same]

/-- Numbers of few digits, padded to one width, are in the order of the numbers. -/
theorem padded_lt_padded_iff {width a b : Nat} (positive : 0 < width) (ha : a < 10 ^ width)
    (hb : b < 10 ^ width) : Day.padded width a < Day.padded width b ↔ a < b := by
  have length : (Day.padded width a).length = (Day.padded width b).length := by
    rw [length_padded positive ha, length_padded positive hb]
  rw [← ofDigitChars_lt_iff (fun _ => isDigit_of_mem_padded) (fun _ => isDigit_of_mem_padded) length,
    ofDigitChars_padded, ofDigitChars_padded]

theorem padded_inj {width a b : Nat} : Day.padded width a = Day.padded width b ↔ a = b := by
  constructor
  · intro same
    rw [← ofDigitChars_padded width a, same, ofDigitChars_padded]
  · rintro rfl
    rfl

end Giro.Text
