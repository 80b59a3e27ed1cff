import Giro.Amount
import Giro.Proofs.Text.Number

/-!
What an amount is as a text: the decimal text of a number above zero that has not too many digits.
So the liberal reading and the comparison with the text of what was read leave the tokens of up to
4300 ASCII digits that do not begin with a zero, and no token makes the comparison fail.
-/

namespace Giro.Amount

/-- The token is the decimal text of this number, which is above zero and not too long. -/
structure Writes (token : String) (n : Nat) : Prop where
  positive : 0 < n
  lt_limit : n < 10 ^ maxDigits
  eq_text : token = toString n

theorem toList_toString (n : Nat) : (toString n).toList = Nat.toDigits 10 n := by
  rw [Nat.toString_eq_repr, Nat.toList_repr]

/-- The check never fails: what was read can be written again. -/
theorem exists_check (token : Option String) : ∃ result, check token = .ok result := by
  cases token with
  | none => exact ⟨none, rfl⟩
  | some token =>
      simp only [check]
      split
      · exact ⟨none, rfl⟩
      · split
        · exact ⟨none, rfl⟩
        · next value read =>
          split
          · exact ⟨none, rfl⟩
          · next positive =>
            have written := Text.writeWhole_of_readWhole? read (by omega)
            exact ⟨_, by rw [written, Except.map]⟩

theorem writes_of_check {token : String} {n : Nat} (h : check (some token) = .ok (some n)) :
    Writes token n := by
  simp only [check] at h
  split at h
  · simp at h
  · split at h
    · simp at h
    · next value read =>
      split at h
      · simp at h
      · next positive =>
        rw [Text.writeWhole_of_readWhole? read (by omega), Except.map, Except.ok.injEq,
          Option.ite_none_right_eq_some, Option.some.injEq] at h
        obtain ⟨same, rfl⟩ := h
        exact ⟨by omega, Text.readWhole?_lt read, same.symm⟩

theorem Writes.isDigit {token : String} {n : Nat} (h : Writes token n) :
    ∀ c ∈ token.toList, c.isDigit = true := by
  rw [h.eq_text, toList_toString]
  exact fun _ => Text.isDigit_of_mem_toDigits

theorem Writes.toList_ne_nil {token : String} {n : Nat} (h : Writes token n) :
    token.toList ≠ [] := by
  rw [h.eq_text, toList_toString]
  exact Nat.toDigits_ne_nil

theorem Writes.length_le {token : String} {n : Nat} (h : Writes token n) :
    token.toList.length ≤ maxDigits := by
  rw [h.eq_text, toList_toString]
  exact (Text.length_toDigits_le_iff h.positive maxDigits).mpr h.lt_limit

theorem Writes.value_eq {token : String} {n : Nat} (h : Writes token n) :
    Nat.ofDigitChars 10 token.toList 0 = n := by
  rw [h.eq_text, toList_toString, Nat.ofDigitChars_ten_toDigits]

theorem Writes.check_eq {token : String} {n : Nat} (h : Writes token n) :
    check (some token) = .ok (some n) := by
  have digits := h.isDigit
  have plain : (token.toList.isEmpty || token.toList.contains '-' || token.toList.contains '.') =
      false := by
    simp only [Bool.or_eq_false_iff, List.isEmpty_eq_false_iff, List.contains_eq_mem,
      decide_eq_false_iff_not]
    exact ⟨⟨h.toList_ne_nil, fun minus => absurd (digits _ minus) (by decide)⟩,
      fun point => absurd (digits _ point) (by decide)⟩
  have read := Text.readWhole?_of_isDigit h.toList_ne_nil digits h.length_le
  rw [h.value_eq] at read
  have positive : ¬ (n : Int) ≤ 0 := by
    have := h.positive
    omega
  have written : Text.writeWhole maxDigits n = .ok token :=
    (Text.writeWhole_eq_ok_iff h.positive).mpr ⟨h.lt_limit, h.eq_text⟩
  simp only [check, plain, Bool.false_eq_true, if_false, read, positive, Int.toNat_natCast,
    written, Except.map, if_true]

theorem check_eq_some_iff {token : String} {n : Nat} :
    check (some token) = .ok (some n) ↔ Writes token n :=
  ⟨writes_of_check, Writes.check_eq⟩

theorem parse?_eq_some_iff {token : String} {n : Nat} : parse? token = some n ↔ Writes token n := by
  obtain ⟨result, checked⟩ := exists_check (some token)
  rw [← check_eq_some_iff, parse?, checked]
  simp [Except.toOption]

theorem Writes.unique {token : String} {n m : Nat} (h : Writes token n) (h' : Writes token m) :
    n = m := by
  rw [← parse?_eq_some_iff] at h h'
  exact Option.some.inj (h.symm.trans h')

/-- The token has from 1 to `maxDigits` characters, which are digits of the ASCII range, the first of
them not zero. -/
structure Canonical (token : String) : Prop where
  nonempty : 1 ≤ token.length
  short : token.length ≤ maxDigits
  digits : ∀ c ∈ token.toList, '0' ≤ c ∧ c ≤ '9'
  lead : token.toList.head? ≠ some '0'

theorem canonical_iff {token : String} : Canonical token ↔ ∃ n, Writes token n := by
  constructor
  · rintro ⟨nonempty, short, digits, lead⟩
    rw [← String.length_toList] at nonempty short
    obtain ⟨c, rest, eq⟩ := List.exists_cons_of_length_pos nonempty
    rw [eq] at digits lead short
    have isDigit : ∀ d ∈ c :: rest, d.isDigit = true := fun d hd =>
      Text.isDigit_iff.mpr (digits d hd)
    have lead : c ≠ '0' := by simpa using lead
    have text := Text.toDigits_ofDigitChars isDigit lead
    have positive : 0 < Nat.ofDigitChars 10 (c :: rest) 0 := by
      rw [Nat.pos_iff_ne_zero]
      intro nothing
      rw [nothing, Nat.toDigits_zero] at text
      exact lead (List.cons.inj text).1.symm
    refine ⟨Nat.ofDigitChars 10 (c :: rest) 0, positive, ?_, ?_⟩
    · exact Nat.lt_of_lt_of_le (Text.ofDigitChars_lt isDigit)
        (Nat.pow_le_pow_right (by decide) short)
    · rw [← String.toList_inj, toList_toString, text, eq]
  · rintro ⟨n, writes⟩
    refine ⟨?_, ?_, fun c hc => Text.isDigit_iff.mp (writes.isDigit c hc), ?_⟩
    · rw [← String.length_toList]
      exact List.length_pos_iff.mpr writes.toList_ne_nil
    · rw [← String.length_toList]
      exact writes.length_le
    · intro lead
      obtain ⟨rest, eq⟩ := List.head?_eq_some_iff.mp lead
      rw [writes.eq_text, toList_toString] at eq
      exact Text.toDigits_ne_cons_zero writes.positive rest eq

/-- A token is accepted if it has this one form, and then for its value in base ten. Any other
token, and none at all, is refused without a failure. -/
theorem check_canonical :
    (∀ token, (∃ n, check (some token) = .ok (some n)) ↔ Canonical token) ∧
    (∀ token n, check (some token) = .ok (some n) →
      n = Nat.ofDigitChars 10 token.toList 0 ∧ 0 < n ∧ toString n = token) ∧
    (∀ token other n, check (some token) = .ok (some n) → check (some other) = .ok (some n) →
      token = other) ∧
    (∀ n, 1 ≤ n → n < 10 ^ maxDigits → check (some (toString n)) = .ok (some n)) ∧
    (∀ token, ¬ Canonical token → check (some token) = .ok none) ∧
    check none = .ok none := by
  simp only [check_eq_some_iff]
  refine ⟨fun token => canonical_iff.symm, ?value, ?distinct, ?every, ?refused, rfl⟩
  case value =>
    intro token n writes
    exact ⟨writes.value_eq.symm, writes.positive, writes.eq_text.symm⟩
  case distinct =>
    intro token other n writes writes'
    rw [writes.eq_text, writes'.eq_text]
  case every => exact fun n positive small => ⟨positive, small, rfl⟩
  case refused =>
    intro token other
    obtain ⟨result, checked⟩ := exists_check (some token)
    cases result with
    | none => exact checked
    | some n => exact absurd (canonical_iff.mpr ⟨n, check_eq_some_iff.mp checked⟩) other

/-- A number in the digits of another script is read, and yet its token is refused. -/
theorem check_canonical_of_other_script :
    Canonical "120" ∧ check (some "120") = .ok (some 120) ∧
    Text.readWhole? maxDigits "१२०".toList = some 120 ∧ ¬ Canonical "१२०" ∧
    check (some "१२०") = .ok none := by
  obtain ⟨accepted, -, -, every, refused, -⟩ := check_canonical
  have small : 120 < 10 ^ maxDigits :=
    Nat.lt_of_lt_of_le (show 120 < 10 ^ 3 by decide) (Nat.pow_le_pow_right (by decide) (by decide))
  have taken : check (some "120") = .ok (some 120) := every 120 (by decide) small
  have foreign : ¬ Canonical "१२०" := by
    intro canonical
    exact absurd (canonical.digits '१' (by decide)) (by decide)
  exact ⟨(accepted "120").mp ⟨120, taken⟩, taken, by decide +kernel, foreign, refused _ foreign⟩

end Giro.Amount
