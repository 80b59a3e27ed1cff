import Giro.Proofs.Text.Mapping

/-!
Texts that are their own small form. Every character of such a text is its own small form, so what
stands around it does not matter: parts of such texts and texts joined from them are of this kind.
The small form of any text is of this kind too, which is read off the tables.
-/

namespace Giro.Text

theorem lowerExpansions_ne_nil : ∀ entry ∈ lowerExpansions, entry.2 ≠ [] := by
  decide

theorem lowerChar_ne_nil (c : Char) : lowerChar c ≠ [] :=
  mapCase_ne_nil lowerExpansions_ne_nil c

theorem lowerChar_sigma_ne : lowerChar 'Σ' ≠ ['Σ'] := by
  decide

/-- The small form of a text begins with one or more characters for its first one. -/
theorem lowerFrom_cons (afterCased : Bool) (c : Char) (rest : List Char) :
    ∃ image after, lowerFrom afterCased (c :: rest) = image ++ lowerFrom after rest ∧
      image ≠ [] ∧ (image = [c] ↔ lowerChar c = [c]) := by
  simp only [lowerFrom]
  refine ⟨_, _, rfl, ?_, ?_⟩
  · split
    · simp
    · exact lowerChar_ne_nil c
  · split
    · next sigma =>
      subst sigma
      simp only [lowerChar_sigma_ne, iff_false]
      split <;> decide
    · rfl

theorem length_le_lowerFrom (afterCased : Bool) (text : List Char) :
    text.length ≤ (lowerFrom afterCased text).length := by
  induction text generalizing afterCased with
  | nil => simp
  | cons c rest ih =>
      obtain ⟨image, after, eq, nonempty, -⟩ := lowerFrom_cons afterCased c rest
      have first := List.length_pos_iff.mpr nonempty
      have others := ih after
      rw [eq, List.length_append, List.length_cons]
      omega

theorem lowerFrom_eq_self_iff {afterCased : Bool} {text : List Char} :
    lowerFrom afterCased text = text ↔ ∀ c ∈ text, lowerChar c = [c] := by
  induction text generalizing afterCased with
  | nil => simp [lowerFrom]
  | cons c rest ih =>
      obtain ⟨image, after, eq, nonempty, own⟩ := lowerFrom_cons afterCased c rest
      rw [eq, List.forall_mem_cons, ← own, ← @ih after]
      constructor
      · intro same
        -- No character vanishes, so the first one has only one character for it.
        have first := List.length_pos_iff.mpr nonempty
        have others := length_le_lowerFrom after rest
        have total := congrArg List.length same
        rw [List.length_append, List.length_cons] at total
        obtain ⟨d, rfl⟩ := List.length_eq_one_iff.mp (show image.length = 1 by omega)
        obtain ⟨rfl, tail⟩ := List.cons.inj same
        exact ⟨rfl, tail⟩
      · rintro ⟨rfl, tail⟩
        rw [tail]
        rfl

theorem isClosed_lower : isClosed lowerExpansions lowerSpans = true := by
  decide +kernel

theorem lowerChar_of_mem_lowerChar {c d : Char} (h : d ∈ lowerChar c) : lowerChar d = [d] :=
  mapCase_of_isKept (isKept_of_mem_mapCase isClosed_lower h)

/-- A small form has no character with another small form. Both forms of the sigma are such
characters, so it does not matter which of them was chosen. -/
theorem lowerChar_of_mem_lowerFrom {afterCased : Bool} {text : List Char} :
    ∀ d ∈ lowerFrom afterCased text, lowerChar d = [d] := by
  induction text generalizing afterCased with
  | nil => simp [lowerFrom]
  | cons c rest ih =>
      simp only [lowerFrom, List.forall_mem_append]
      refine ⟨?_, ih⟩
      split
      · rw [List.forall_mem_singleton]
        split <;> decide
      · exact fun d => lowerChar_of_mem_lowerChar

theorem lower_eq_self_iff {text : List Char} :
    lower text = text ↔ ∀ c ∈ text, lowerChar c = [c] :=
  lowerFrom_eq_self_iff

end Giro.Text

namespace Giro

theorem small_eq_self_iff {text : String} :
    small text = text ↔ ∀ c ∈ text.toList, Text.lowerChar c = [c] := by
  rw [small, ← String.toList_inj, String.toList_ofList, Text.lower_eq_self_iff]

end Giro
