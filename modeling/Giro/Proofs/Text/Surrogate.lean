import Giro.Proofs.Text.Mapping
import Giro.Text.Surrogate

/-!
Codes of characters and codes of surrogates. No character has the code of a surrogate, so the codes
of characters are kept as these characters, and a pair of surrogates is kept as one character. What
is kept of a text has as many marks as it takes to tell a surrogate only if it has a surrogate.
-/

namespace Giro.Text

theorem not_surrogate (c : Char) :
    isHighSurrogate c.toNat = false ∧ isLowSurrogate c.toNat = false := by
  have valid : c.toNat.isValidChar := c.valid
  simp only [Nat.isValidChar] at valid
  simp only [isHighSurrogate, isLowSurrogate, Bool.and_eq_false_iff, decide_eq_false_iff_not]
  omega

theorem ofCode_toNat (marks : Nat) (c : Char) : ofCode marks c.toNat = [c] := by
  obtain ⟨high, low⟩ := not_surrogate c
  simp [ofCode, isSurrogate, high, low]

theorem le_pairCode (high low : Nat) : 0x10000 ≤ pairCode high low :=
  Nat.le_trans (Nat.le_add_right 0x10000 _) (Nat.le_add_right _ _)

theorem ofCode_pairCode (marks high low : Nat) :
    ofCode marks (pairCode high low) = [.ofNat (pairCode high low)] := by
  have above := le_pairCode high low
  have other : isHighSurrogate (pairCode high low) = false ∧
      isLowSurrogate (pairCode high low) = false := by
    simp only [isHighSurrogate, isLowSurrogate, Bool.and_eq_false_iff, decide_eq_false_iff_not]
    omega
  simp [ofCode, isSurrogate, other.1, other.2]

theorem toNat_mark : mark.toNat = 0xe000 :=
  rfl

section
variable {marks : Nat}

theorem count_mark_of_isSurrogate {code : Nat} (h : isSurrogate code = true) :
    (ofCode marks code).count mark = marks ∧ code ≠ mark.toNat := by
  have bounds : 0xd800 ≤ code ∧ code < 0xe000 := by
    simp only [isSurrogate, isHighSurrogate, isLowSurrogate, Bool.or_eq_true, Bool.and_eq_true,
      decide_eq_true_eq] at h
    omega
  have other : Char.ofNat (code - 0x8000) ≠ mark := by
    intro same
    have codes := congrArg Char.toNat same
    rw [toNat_ofNat_of_valid (.inl (by omega)), toNat_mark] at codes
    omega
  refine ⟨?_, by rw [toNat_mark]; omega⟩
  rw [ofCode, if_pos h, List.count_append, List.count_replicate_self, List.count_singleton,
    if_neg (by simpa using other), Nat.add_zero]

theorem count_mark_of_not_isSurrogate {code : Nat} (h : isSurrogate code = false) :
    (ofCode marks code).count mark = [code].count mark.toNat := by
  have same_iff : Char.ofNat code = mark ↔ code = mark.toNat := by
    constructor
    · intro same
      by_cases valid : code.isValidChar
      · rw [← same, toNat_ofNat_of_valid valid]
      · rw [Char.ofNat, dif_neg valid] at same
        exact absurd same (by decide)
    · rintro rfl
      rfl
  simp [ofCode, h, List.count_singleton, same_iff]

theorem count_mark_flatMap_ofCode (codes : List Nat) :
    (codes.flatMap (ofCode marks)).count mark =
      codes.count mark.toNat + codes.countP isSurrogate * marks := by
  induction codes with
  | nil => simp
  | cons code rest ih =>
      rw [List.flatMap_cons, List.count_append, ih, List.countP_cons]
      cases surrogate : isSurrogate code with
      | true =>
          obtain ⟨told, other⟩ : (ofCode marks code).count mark = marks ∧ code ≠ mark.toNat :=
            count_mark_of_isSurrogate surrogate
          rw [told, List.count_cons_of_ne other, if_pos rfl, Nat.add_mul, Nat.one_mul]
          omega
      | false =>
          have whole : code :: rest = [code] ++ rest := rfl
          rw [count_mark_of_not_isSurrogate surrogate, if_neg Bool.false_ne_true, Nat.add_zero, whole,
            List.count_append, Nat.add_assoc]

/-- What is kept of a text with fewer marks than tell a surrogate is whole just when there is no
surrogate in it. -/
theorem isWhole_ofCodes_iff {codes : List Nat} (few : codes.count mark.toNat < marks) :
    isWhole marks (.ofList (codes.flatMap (ofCode marks))) = true ↔
      ∀ code ∈ codes, isSurrogate code = false := by
  have none_iff : codes.countP isSurrogate = 0 ↔ ∀ code ∈ codes, isSurrogate code = false := by
    simp [List.countP_eq_zero]
  rw [isWhole, decide_eq_true_iff, String.toList_ofList, count_mark_flatMap_ofCode, ← none_iff]
  constructor
  · intro under
    by_contra some
    have told := Nat.le_mul_of_pos_left marks (Nat.pos_of_ne_zero some)
    omega
  · intro none
    rwa [none, Nat.zero_mul, Nat.add_zero]

end

theorem hexCode?_append {digits : List Char} {code : Nat}
    (h : hexCode? digits = some (code, [])) (rest : List Char) :
    hexCode? (digits ++ rest) = some (code, rest) := by
  unfold hexCode? at h
  split at h
  · obtain ⟨w, first, x, second, y, third, z, fourth, value⟩ := by
      simpa only [Option.bind_eq_bind, Option.bind_eq_some_iff] using h
    obtain ⟨rfl, rfl⟩ := Prod.mk.inj (Option.some.inj value)
    simp only [List.cons_append, List.nil_append, hexCode?, first, second, third, fourth]
    rfl
  · contradiction

end Giro.Text
