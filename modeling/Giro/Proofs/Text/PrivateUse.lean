import Giro.Proofs.Text.Lower
import Giro.Proofs.Text.Upper
import Giro.Text.Surrogate

/-!
Characters for private use. The case tables have none of them on either side, so another letter case
of a text has each of them just as often. The mark of a surrogate without its partner is one of
them, and so a text without such surrogates stays one.
-/

namespace Giro.Text

def privateRange : Ranges := [(0xe000, 0xf8ff)]

def IsPrivate (c : Char) : Prop :=
  privateRange.covers c.toNat = true

instance (c : Char) : Decidable (IsPrivate c) :=
  inferInstanceAs (Decidable (_ = _))

theorem isPrivate_mark : IsPrivate mark := by
  decide

theorem apart_privateRange :
    privateRange.apart (sources lowerExpansions lowerSpans) = true ∧
      privateRange.apart (sources upperExpansions upperSpans) = true := by
  decide +kernel

theorem avoid_privateRange : avoid lowerExpansions lowerSpans privateRange = true ∧
    avoid upperExpansions upperSpans privateRange = true := by
  decide +kernel

section
variable {d : Char} (h : IsPrivate d)
include h

theorem count_mapCase {expansions : List (Nat × List Nat)} {spans : List CaseSpan}
    (avoided : avoid expansions spans privateRange = true)
    (apart : privateRange.apart (sources expansions spans) = true) (c : Char) :
    (mapCase expansions spans c).count d = [c].count d := by
  by_cases same : c = d
  · subst same
    rw [mapCase_of_not_sources (Ranges.covers_of_apart apart h)]
  · have absent : d ∉ mapCase expansions spans c :=
      fun member => same (eq_of_mem_mapCase (by decide) avoided apart h member).symm
    have other : d ∉ [c] := fun member => same (List.mem_singleton.mp member).symm
    rw [List.count_eq_zero_of_not_mem absent, List.count_eq_zero_of_not_mem other]

theorem count_lowerChar (c : Char) : (lowerChar c).count d = [c].count d :=
  count_mapCase h avoid_privateRange.1 apart_privateRange.1 c

theorem count_upperChar (c : Char) : (upperChar c).count d = [c].count d :=
  count_mapCase h avoid_privateRange.2 apart_privateRange.2 c

theorem count_lowerFrom (afterCased : Bool) (text : List Char) :
    (lowerFrom afterCased text).count d = text.count d := by
  induction text generalizing afterCased with
  | nil => rfl
  | cons c rest ih =>
      have whole : c :: rest = [c] ++ rest := rfl
      rw [lowerFrom, List.count_append, ih, whole, List.count_append]
      congr 1
      split
      · next sigma =>
        -- Neither the capital sigma nor one of its small forms is for private use.
        have other : ∀ s ∈ ['Σ', 'ς', 'σ'], [s].count d = 0 := by
          intro s listed
          rw [List.count_eq_zero, List.mem_singleton]
          rintro rfl
          simp only [List.mem_cons, List.not_mem_nil, or_false] at listed
          obtain rfl | rfl | rfl := listed <;> exact absurd h (by decide)
        rw [sigma, other 'Σ' (by decide)]
        split
        · exact other 'ς' (by decide)
        · exact other 'σ' (by decide)
      · exact count_lowerChar h c

theorem count_lower (text : List Char) : (lower text).count d = text.count d :=
  count_lowerFrom h false text

theorem count_upper (text : List Char) : (upper text).count d = text.count d := by
  induction text with
  | nil => rfl
  | cons c rest ih =>
      rw [upper, List.flatMap_cons, List.count_append, ← upper, ih, count_upperChar h,
        ← List.count_append, List.singleton_append]

end

theorem isWhole_iff {marks : Nat} {s : String} :
    isWhole marks s = true ↔ s.toList.count mark < marks :=
  decide_eq_true_iff

theorem isWhole_capital {marks : Nat} {s : String} :
    isWhole marks (capital s) = isWhole marks s := by
  rw [isWhole, isWhole, capital, String.toList_ofList, count_upper isPrivate_mark]

end Giro.Text
