import Giro.Proofs.Text.Small
import Giro.Proofs.Text.Trim

/-!
The small form of a joined text. The search for the neighbours of a sigma stops at a character that
is neither cased nor ignorable, so what stands before such a character and what stands after it are
put into small letters on their own. No character becomes blank, so a word stays a word.
-/

namespace Giro.Text

section
variable {mark : Char} (apart : caseRole mark = .neither)
include apart

theorem startsCased_append_cons (front back : List Char) :
    startsCased (front ++ mark :: back) = startsCased front := by
  induction front with
  | nil => simp only [List.nil_append, startsCased, apart]
  | cons c rest ih => simp only [List.cons_append, startsCased, ih]

theorem lowerFrom_append_cons (afterCased : Bool) (front back : List Char) :
    lowerFrom afterCased (front ++ mark :: back) =
      lowerFrom afterCased front ++ lowerChar mark ++ lowerFrom false back := by
  induction front generalizing afterCased with
  | nil =>
      have noSigma : mark ≠ 'Σ' := by
        rintro rfl
        exact absurd apart (by decide)
      simp only [List.nil_append, lowerFrom, noSigma, if_false, apart]
  | cons c rest ih =>
      simp only [List.cons_append, lowerFrom, startsCased_append_cons apart, ih, List.append_assoc]

end

theorem apart_blankRanges :
    blankRanges.apart casedRanges = true ∧ blankRanges.apart ignorableRanges = true ∧
      blankRanges.apart (sources lowerExpansions lowerSpans) = true := by
  decide +kernel

section
variable {blank : Char} (h : isBlank blank = true)
include h

theorem caseRole_of_isBlank : caseRole blank = .neither := by
  obtain ⟨cased, ignorable, -⟩ := apart_blankRanges
  simp [caseRole, Ranges.covers_of_apart cased h, Ranges.covers_of_apart ignorable h]

theorem lowerChar_of_isBlank : lowerChar blank = [blank] :=
  mapCase_of_not_sources (Ranges.covers_of_apart apart_blankRanges.2.2 h)

theorem lower_append_cons_blank (front back : List Char) :
    lower (front ++ blank :: back) = lower front ++ blank :: lower back := by
  rw [lower, lowerFrom_append_cons (caseRole_of_isBlank h), lowerChar_of_isBlank h,
    List.append_assoc]
  rfl

end

theorem lower_append_space_cons (front back : List Char) :
    lower (front ++ ' ' :: back) = lower front ++ ' ' :: lower back :=
  lower_append_cons_blank isBlank_space front back

theorem avoid_blankRanges_lower : avoid lowerExpansions lowerSpans blankRanges = true := by
  decide +kernel

theorem isBlank_of_mem_lowerChar {c d : Char} (nonblank : isBlank c = false)
    (member : d ∈ lowerChar c) : isBlank d = false :=
  covers_of_mem_mapCase (by decide) avoid_blankRanges_lower nonblank member

theorem isBlank_of_mem_lowerFrom {text : List Char} (nonblank : ∀ c ∈ text, isBlank c = false)
    {afterCased : Bool} : ∀ c ∈ lowerFrom afterCased text, isBlank c = false := by
  induction text generalizing afterCased with
  | nil => simp [lowerFrom]
  | cons c rest ih =>
      obtain ⟨first, others⟩ := List.forall_mem_cons.mp nonblank
      simp only [lowerFrom, List.forall_mem_append]
      refine ⟨?_, ih others⟩
      split
      · rw [List.forall_mem_singleton]
        split <;> decide
      · exact fun d member => isBlank_of_mem_lowerChar first member

theorem IsWord.lower {text : List Char} (h : IsWord text) : IsWord (Text.lower text) := by
  refine ⟨?_, isBlank_of_mem_lowerFrom h.2⟩
  have grows := length_le_lowerFrom false text
  have positive := List.length_pos_iff.mpr h.1
  rw [← List.length_pos_iff, Text.lower]
  omega

end Giro.Text
