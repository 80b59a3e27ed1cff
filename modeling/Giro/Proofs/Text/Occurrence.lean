import Mathlib.Data.List.Infix
import Giro.Text.Cut

/-!
Where a phrase occurs in a text. A cut is made at the first occurrence and fails only where there
is none. Two phrases whose first occurrences are known do not overlap when the later one begins
with a character that the earlier one has only at its head.
-/

namespace Giro.Text

/-- The text before and after a phrase of which no occurrence begins earlier. -/
structure FirstOccurrence (phrase text before after : List Char) : Prop where
  eq_append : text = before ++ phrase ++ after
  length_le : ∀ front back, text = front ++ phrase ++ back → before.length ≤ front.length

theorem FirstOccurrence.before_prefix {phrase text before after : List Char}
    (h : FirstOccurrence phrase text before after) : before <+: text :=
  ⟨phrase ++ after, by rw [h.eq_append, List.append_assoc]⟩

theorem cut?_append_ne_none (phrase before after : List Char) :
    cut? phrase (before ++ phrase ++ after) ≠ none := by
  induction before with
  | nil =>
      cases phrase with
      | nil => cases after <;> simp [cut?]
      | cons c rest =>
          have starts : (c :: rest) <+: c :: (rest ++ after) := List.prefix_append (c :: rest) after
          simp [cut?, List.isPrefixOf_iff_prefix.mpr starts]
  | cons c before ih =>
      simp only [List.cons_append, cut?]
      split
      · simp
      · simpa using ih

theorem cut?_eq_none_iff {phrase text : List Char} :
    cut? phrase text = none ↔ ¬ phrase <:+: text := by
  constructor
  · rintro none ⟨before, after, rfl⟩
    exact cut?_append_ne_none phrase before after none
  · intro absent
    cases found : cut? phrase text with
    | none => rfl
    | some pieces => exact absurd ⟨pieces.1, pieces.2, (eq_append_of_cut? found).symm⟩ absent

theorem length_le_of_cut? {phrase text before after front back : List Char}
    (found : cut? phrase text = some (before, after)) (other : text = front ++ phrase ++ back) :
    before.length ≤ front.length := by
  induction text generalizing before front with
  | nil =>
      have eq := eq_append_of_cut? found
      simp_all
  | cons c rest ih =>
      simp only [cut?] at found
      split at found
      · simp only [Option.some.injEq, Prod.mk.injEq] at found
        simp [← found.1]
      · next hp =>
        obtain ⟨⟨before', after'⟩, found', eq⟩ := Option.map_eq_some_iff.mp found
        simp only [Prod.mk.injEq] at eq
        obtain ⟨rfl, rfl⟩ := eq
        cases front with
        | nil =>
            have starts : phrase <+: c :: rest := ⟨back, by simpa using other.symm⟩
            exact absurd (List.isPrefixOf_iff_prefix.mpr starts) hp
        | cons d front =>
            simp only [List.cons_append, List.cons.injEq] at other
            simpa using ih found' other.2

theorem firstOccurrence_of_cut? {phrase text before after : List Char}
    (found : cut? phrase text = some (before, after)) :
    FirstOccurrence phrase text before after :=
  ⟨eq_append_of_cut? found, fun _ _ => length_le_of_cut? found⟩

/-- An occurrence that begins after another one, with a character that the other phrase has at
most at its head, begins after its end. -/
theorem length_add_le_of_head_not_mem {phrase rest front back before after : List Char} {c : Char}
    (eq : front ++ phrase ++ back = before ++ (c :: rest) ++ after)
    (lt : front.length < before.length) (absent : c ∉ phrase.tail) :
    (front ++ phrase).length ≤ before.length := by
  by_contra inside
  have within : before.length < (front ++ phrase).length := by omega
  have at_head : (front ++ phrase ++ back)[before.length]? = some c := by simp [eq]
  rw [List.getElem?_append_left within, List.getElem?_append_right (by omega)] at at_head
  obtain ⟨k, hk⟩ : ∃ k, before.length - front.length = k + 1 :=
    ⟨before.length - front.length - 1, by omega⟩
  rw [hk, ← List.getElem?_tail] at at_head
  exact absent (List.mem_of_getElem? at_head)

/-- A cut is made at the first occurrence and nowhere else. -/
theorem cut?_eq_some_iff {phrase text before after : List Char} :
    cut? phrase text = some (before, after) ↔ FirstOccurrence phrase text before after := by
  refine ⟨firstOccurrence_of_cut?, ?_⟩
  rintro ⟨rfl, first⟩
  cases found : cut? phrase (before ++ phrase ++ after) with
  | none => exact absurd found (cut?_append_ne_none phrase before after)
  | some pieces =>
      have other := firstOccurrence_of_cut? found
      have same : before.length = pieces.1.length :=
        Nat.le_antisymm (first _ _ other.eq_append) (other.length_le _ _ rfl)
      have eq := other.eq_append
      rw [List.append_assoc, List.append_assoc] at eq
      obtain ⟨rfl, rest⟩ := List.append_inj eq same
      rw [List.append_cancel_left rest]

theorem not_infix_dropLast {phrase : List Char} (nonempty : phrase ≠ []) :
    ¬ phrase <:+: phrase.dropLast := by
  intro inside
  have shorter := inside.length_le
  have positive := List.length_pos_iff.mpr nonempty
  rw [List.length_dropLast] at shorter
  omega

/-- Up to the last character of the first occurrence there is none. -/
theorem FirstOccurrence.not_infix_dropLast {phrase text before after : List Char}
    (nonempty : phrase ≠ []) (h : FirstOccurrence phrase text before after) :
    ¬ phrase <:+: before ++ phrase.dropLast := by
  rintro ⟨front, back, eq⟩
  have whole : before ++ phrase = before ++ phrase.dropLast ++ [phrase.getLast nonempty] := by
    rw [List.append_assoc, List.dropLast_append_getLast]
  have earlier : before.length ≤ front.length := by
    refine h.length_le front (back ++ [phrase.getLast nonempty] ++ after) ?_
    rw [h.eq_append, whole, ← eq]
    simp
  have total := congrArg List.length eq
  have positive := List.length_pos_iff.mpr nonempty
  simp only [List.length_append, List.length_dropLast] at total
  omega

/-- An occurrence is the first one when the text up to its last character has none. -/
theorem firstOccurrence_of_not_infix {phrase before : List Char} (nonempty : phrase ≠ [])
    (absent : ¬ phrase <:+: before ++ phrase.dropLast) (after : List Char) :
    FirstOccurrence phrase (before ++ phrase ++ after) before after := by
  refine ⟨rfl, ?_⟩
  intro front back eq
  by_contra earlier
  have fits : (front ++ phrase).length ≤ (before ++ phrase.dropLast).length := by
    rw [List.length_append, List.length_append, List.length_dropLast]
    have positive := List.length_pos_iff.mpr nonempty
    omega
  have whole : before ++ phrase.dropLast <+: before ++ phrase ++ after :=
    ((List.prefix_append_right_inj before).mpr phrase.dropLast_prefix).trans
      (List.prefix_append (before ++ phrase) after)
  obtain ⟨rest, split⟩ := List.prefix_of_prefix_length_le ⟨back, eq.symm⟩ whole fits
  exact absent ⟨front, rest, split⟩

end Giro.Text
