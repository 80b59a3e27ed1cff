import Giro.Proofs.Text.Case
import Giro.Proofs.Text.Trim

/-!
The capital form of a text and what divides it. No character vanishes and none becomes blank or a
comma, so a word stays a word, and a trimmed text without a comma stays one.
-/

namespace Giro.Text

theorem upperExpansions_ne_nil : ∀ entry ∈ upperExpansions, entry.2 ≠ [] := by
  decide

theorem upperChar_ne_nil (c : Char) : upperChar c ≠ [] :=
  mapCase_ne_nil upperExpansions_ne_nil c

def commaRange : Ranges := [(0x2c, 0x2c)]

theorem avoid_upper : avoid upperExpansions upperSpans blankRanges = true ∧
    avoid upperExpansions upperSpans commaRange = true := by
  decide +kernel

theorem isBlank_of_mem_upperChar {c d : Char} (nonblank : isBlank c = false)
    (member : d ∈ upperChar c) : isBlank d = false :=
  covers_of_mem_mapCase (by decide) avoid_upper.1 nonblank member

theorem covers_commaRange_iff {c : Char} : commaRange.covers c.toNat = true ↔ c = ',' := by
  rw [Ranges.covers_iff]
  constructor
  · rintro ⟨range, listed, lower, upper⟩
    obtain rfl := List.mem_singleton.mp listed
    have code : c.toNat = 0x2c := Nat.le_antisymm upper lower
    rw [← Char.ofNat_toNat c, code]
  · rintro rfl
    exact ⟨_, List.mem_singleton_self _, by decide⟩

theorem ne_comma_of_mem_upperChar {c d : Char} (other : c ≠ ',') (member : d ∈ upperChar c) :
    d ≠ ',' := by
  have outside : commaRange.covers c.toNat = false := by
    rwa [Bool.eq_false_iff, ne_eq, covers_commaRange_iff]
  have mapped : commaRange.covers d.toNat = false :=
    covers_of_mem_mapCase (by decide) avoid_upper.2 outside member
  rwa [Bool.eq_false_iff, ne_eq, covers_commaRange_iff] at mapped

theorem comma_not_mem_upper {text : List Char} (h : ',' ∉ text) : ',' ∉ upper text := by
  intro inside
  obtain ⟨c, member, image⟩ := List.mem_flatMap.mp inside
  exact ne_comma_of_mem_upperChar (fun same => h (same ▸ member)) image rfl

theorem isWord_upperChar {c : Char} (nonblank : isBlank c = false) : IsWord (upperChar c) :=
  ⟨upperChar_ne_nil c, fun _ => isBlank_of_mem_upperChar nonblank⟩

theorem upper_ne_nil {text : List Char} (h : text ≠ []) : upper text ≠ [] := by
  obtain ⟨c, rest, rfl⟩ := List.exists_cons_of_ne_nil h
  simp [upper, upperChar_ne_nil]

theorem IsWord.upper {text : List Char} (h : IsWord text) : IsWord (Text.upper text) := by
  refine ⟨upper_ne_nil h.1, fun d member => ?_⟩
  obtain ⟨c, inside, image⟩ := List.mem_flatMap.mp member
  exact isBlank_of_mem_upperChar (h.2 c inside) image

theorem upper_append (front back : List Char) : upper (front ++ back) = upper front ++ upper back :=
  List.flatMap_append

theorem upper_singleton (c : Char) : upper [c] = upperChar c :=
  List.flatMap_singleton upperChar c

/-- Neither end of a trimmed text becomes blank. -/
theorem trim_upper {text : List Char} (h : trim text = text) : trim (upper text) = upper text := by
  obtain ⟨start, stop⟩ := trim_eq_self_iff.mp h
  by_cases nothing : text = []
  · subst nothing
    rfl
  rw [trim_eq_self_iff]
  constructor
  · obtain ⟨c, rest, rfl⟩ := List.exists_cons_of_ne_nil nothing
    rw [← List.singleton_append, upper_append, upper_singleton]
    exact (isWord_upperChar (trimStart_cons_eq_self_iff.mp start)).trimStart_append _
  · obtain ⟨front, c, rfl⟩ := (List.eq_nil_or_concat' text).resolve_left nothing
    rw [upper_append, upper_singleton]
    exact (isWord_upperChar (trimEnd_append_singleton_eq_self_iff.mp stop)).trimEnd_append _

end Giro.Text
