import Mathlib.Data.List.Basic
import Giro.Text.Cut

/-!
The pieces of a text between the occurrences of a character: the runs without it that go from one
occurrence, or the beginning, to the next one, or the end. Pieces that are put together with the
character between them are found again.
-/

namespace Giro.Text

/-- The piece goes from the beginning of the text or a mark to the next mark or the end. -/
structure IsPiece (mark : Char) (text piece : List Char) : Prop where
  unmarked : mark ∉ piece
  bounded : ∃ before after, text = before ++ piece ++ after ∧
    (before = [] ∨ ∃ front, before = front ++ [mark]) ∧ (after = [] ∨ ∃ back, after = mark :: back)

section
variable {mark : Char} {text piece : List Char}

theorem splitAt_eq_splitOn (mark : Char) (text : List Char) : splitAt mark text = text.splitOn mark := by
  induction text with
  | nil => rfl
  | cons c rest ih =>
      rw [splitAt, ih, List.splitOn_eq_splitOnP, List.splitOn_eq_splitOnP,
        List.splitOnP_cons_eq_if_modifyHead]
      simp only [beq_iff_eq]
      split
      · rfl
      · obtain ⟨first, more, eq⟩ := List.exists_cons_of_ne_nil (List.splitOnP_ne_nil (· == mark) rest)
        rw [eq, List.modifyHead_cons]

theorem splitAt_append_cons (front back : List Char) :
    splitAt mark (front ++ mark :: back) = splitAt mark front ++ splitAt mark back := by
  simp only [splitAt_eq_splitOn, List.splitOn_eq_splitOnP]
  exact List.splitOnP_append_cons front back (beq_self_eq_true mark)

theorem splitAt_of_not_mem (h : mark ∉ text) : splitAt mark text = [text] := by
  rw [splitAt_eq_splitOn, List.splitOn_eq_splitOnP]
  refine List.splitOnP_eq_singleton fun c member => ?_
  rw [beq_eq_false_iff_ne]
  rintro rfl
  exact h member

theorem IsPiece.of_not_mem (h : mark ∉ text) : IsPiece mark text text :=
  ⟨h, [], [], by simp, .inl rfl, .inl rfl⟩

theorem IsPiece.first {front : List Char} (h : mark ∉ front) (back : List Char) :
    IsPiece mark (front ++ mark :: back) front :=
  ⟨h, [], mark :: back, rfl, .inl rfl, .inr ⟨back, rfl⟩⟩

theorem IsPiece.later {back : List Char} (h : IsPiece mark back piece) (front : List Char) :
    IsPiece mark (front ++ mark :: back) piece := by
  obtain ⟨unmarked, before, after, rfl, begins, ends⟩ := h
  refine ⟨unmarked, front ++ mark :: before, after, by simp, .inr ?_, ends⟩
  obtain rfl | ⟨more, rfl⟩ := begins
  · exact ⟨front, rfl⟩
  · exact ⟨front ++ mark :: more, by simp⟩

theorem mem_splitAt_of_isPiece (h : IsPiece mark text piece) : piece ∈ splitAt mark text := by
  obtain ⟨unmarked, before, after, rfl, begins, ends⟩ := h
  have own : piece ∈ splitAt mark (piece ++ after) := by
    obtain rfl | ⟨back, rfl⟩ := ends
    · rw [List.append_nil, splitAt_of_not_mem unmarked]
      exact List.mem_singleton_self piece
    · rw [splitAt_append_cons, splitAt_of_not_mem unmarked]
      exact List.mem_append_left _ (List.mem_singleton_self piece)
  obtain rfl | ⟨front, rfl⟩ := begins
  · exact own
  · rw [List.append_assoc, List.append_assoc, List.singleton_append, splitAt_append_cons]
    exact List.mem_append_right _ own

theorem isPiece_of_mem_splitAt {mark : Char} {text piece : List Char}
    (h : piece ∈ splitAt mark text) : IsPiece mark text piece := by
  by_cases marked : mark ∈ text
  · obtain ⟨front, back, eq, unmarked⟩ := List.eq_append_cons_of_mem marked
    rw [eq, splitAt_append_cons, splitAt_of_not_mem unmarked, List.singleton_append] at h
    rw [eq]
    obtain rfl | h := List.mem_cons.mp h
    · exact .first unmarked back
    · exact (isPiece_of_mem_splitAt h).later front
  · rw [splitAt_of_not_mem marked] at h
    obtain rfl := List.mem_singleton.mp h
    exact .of_not_mem marked
termination_by text.length
decreasing_by
  rw [eq, List.length_append, List.length_cons]
  omega

theorem mem_splitAt_iff : piece ∈ splitAt mark text ↔ IsPiece mark text piece :=
  ⟨isPiece_of_mem_splitAt, mem_splitAt_of_isPiece⟩

/-- Pieces without the mark that are joined by it are the pieces of what they are joined to. -/
theorem splitAt_intercalate {pieces : List (List Char)} (nonempty : pieces ≠ [])
    (unmarked : ∀ piece ∈ pieces, mark ∉ piece) :
    splitAt mark ([mark].intercalate pieces) = pieces := by
  rw [splitAt_eq_splitOn, List.splitOn_intercalate mark unmarked nonempty]

end
end Giro.Text
