/-!
Cutting a text at the first occurrence of a phrase, and splitting it at every occurrence of one
character. The cut gives the text before and after the phrase, so that no offsets are needed.
-/

namespace Giro.Text

/-- What stands before and after the first occurrence of the phrase. -/
def cut? (phrase : List Char) : List Char → Option (List Char × List Char)
  | [] => if phrase = [] then some ([], []) else none
  | c :: rest =>
      if phrase.isPrefixOf (c :: rest) then some ([], (c :: rest).drop phrase.length)
      else (cut? phrase rest).map fun (before, after) => (c :: before, after)

/-- The pieces between the occurrences of a character; there is always at least one. -/
def splitAt (mark : Char) : List Char → List (List Char)
  | [] => [[]]
  | c :: rest =>
      if c = mark then [] :: splitAt mark rest
      else match splitAt mark rest with
        | [] => [[c]]
        | piece :: more => (c :: piece) :: more

/-- A cut puts the text together again. -/
theorem eq_append_of_cut? {phrase text before after : List Char}
    (h : cut? phrase text = some (before, after)) : text = before ++ phrase ++ after := by
  induction text generalizing before after with
  | nil =>
      simp only [cut?] at h
      split at h
      · next hp => simp_all
      · simp at h
  | cons c rest ih =>
      simp only [cut?] at h
      split at h
      · next hp =>
        obtain ⟨after', eq⟩ := List.isPrefixOf_iff_prefix.mp hp
        simp only [Option.some.injEq, Prod.mk.injEq] at h
        obtain ⟨rfl, rfl⟩ := h
        simp [← eq]
      · obtain ⟨⟨before', after'⟩, found, eq⟩ := Option.map_eq_some_iff.mp h
        simp only [Prod.mk.injEq] at eq
        obtain ⟨rfl, rfl⟩ := eq
        simp [ih found]

end Giro.Text
