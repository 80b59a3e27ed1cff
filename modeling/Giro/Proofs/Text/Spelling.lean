import Mathlib.Logic.Relation
import Giro.Proofs.Text.Case
import Giro.Proofs.Text.Lower

/-!
Spellings of a text that count as one: the letters of ASCII may be written in either case and
blanks may stand at the two ends. An ASCII letter has the same neighbours' say in both its cases and
a blank separates like the end of a text, so such an edit leaves the small form of every other
character as it is, the choice between the two forms of a sigma among them.
-/

namespace Giro.Text

/-- What is the same for each capital letter of ASCII and its small letter is the same for every
character and what it is turned into. -/
theorem apply_toLower {α : Type} (f : Char → α)
    (letters : ∀ k < 26, f (Char.ofNat (65 + k)).toLower = f (Char.ofNat (65 + k))) (c : Char) :
    f c.toLower = f c := by
  by_cases capital : 65 ≤ c.toNat ∧ c.toNat ≤ 90
  · have letter := letters (c.toNat - 65) (by omega)
    rwa [Nat.add_sub_cancel' capital.1, Char.ofNat_toNat] at letter
  · have other : ¬ (c.val ≥ 'A'.val ∧ c.val ≤ 'Z'.val) := by
      simpa [UInt32.le_iff_toNat_le] using capital
    rw [show c.toLower = c from dif_neg other]

theorem letters_alike : ∀ k < 26, let c := Char.ofNat (65 + k)
    lowerChar c.toLower = lowerChar c ∧ upperChar c.toLower = upperChar c ∧
      caseRole c.toLower = caseRole c ∧ isBlank c.toLower = isBlank c := by
  decide +kernel

theorem lowerChar_toLower (c : Char) : lowerChar c.toLower = lowerChar c :=
  apply_toLower lowerChar (fun k letter => (letters_alike k letter).1) c

theorem upperChar_toLower (c : Char) : upperChar c.toLower = upperChar c :=
  apply_toLower upperChar (fun k letter => (letters_alike k letter).2.1) c

theorem caseRole_toLower (c : Char) : caseRole c.toLower = caseRole c :=
  apply_toLower caseRole (fun k letter => (letters_alike k letter).2.2.1) c

theorem isBlank_toLower (c : Char) : isBlank c.toLower = isBlank c :=
  apply_toLower isBlank (fun k letter => (letters_alike k letter).2.2.2) c

theorem toLower_eq_sigma_iff (c : Char) : c.toLower = 'Σ' ↔ c = 'Σ' :=
  decide_eq_decide.mp (apply_toLower (fun c => decide (c = 'Σ')) (by decide) c)

theorem startsCased_map_toLower (text : List Char) :
    startsCased (text.map Char.toLower) = startsCased text := by
  induction text with
  | nil => rfl
  | cons c rest ih => simp only [List.map_cons, startsCased, caseRole_toLower, ih]

theorem lowerFrom_map_toLower (afterCased : Bool) (text : List Char) :
    lowerFrom afterCased (text.map Char.toLower) = lowerFrom afterCased text := by
  induction text generalizing afterCased with
  | nil => rfl
  | cons c rest ih =>
      simp only [List.map_cons, lowerFrom, toLower_eq_sigma_iff, lowerChar_toLower,
        caseRole_toLower, startsCased_map_toLower, ih]

theorem lower_map_toLower (text : List Char) : lower (text.map Char.toLower) = lower text :=
  lowerFrom_map_toLower false text

theorem upper_map_toLower (text : List Char) : upper (text.map Char.toLower) = upper text := by
  simp only [upper, List.flatMap_map, upperChar_toLower]

theorem trimStart_map_toLower (text : List Char) :
    trimStart (text.map Char.toLower) = (trimStart text).map Char.toLower := by
  have blank : isBlank ∘ Char.toLower = isBlank := funext isBlank_toLower
  rw [trimStart, List.dropWhile_map, blank, trimStart]

theorem trim_map_toLower (text : List Char) :
    trim (text.map Char.toLower) = (trim text).map Char.toLower := by
  simp only [trim, trimEnd, trimStart_map_toLower, ← List.map_reverse]

/-- One edit of a text: an ASCII letter takes its other case, or a blank comes to one of the two
ends. -/
inductive Edit : List Char → List Char → Prop
  | letter {c d : Char} (same : c.toLower = d.toLower) (front back : List Char) :
      Edit (front ++ c :: back) (front ++ d :: back)
  | start {blank : Char} (h : isBlank blank = true) (text : List Char) : Edit text (blank :: text)
  | stop {blank : Char} (h : isBlank blank = true) (text : List Char) : Edit text (text ++ [blank])

/-- Two texts with edits between them, each made or undone. -/
def Respelled : List Char → List Char → Prop :=
  Relation.EqvGen Edit

namespace Respelled

theorem refl (text : List Char) : Respelled text text :=
  Relation.EqvGen.refl text

theorem symm {s t : List Char} (h : Respelled s t) : Respelled t s :=
  Relation.EqvGen.symm s t h

theorem trans {s t u : List Char} (h : Respelled s t) (h' : Respelled t u) : Respelled s u :=
  Relation.EqvGen.trans s t u h h'

theorem of_edit {s t : List Char} (h : Edit s t) : Respelled s t :=
  Relation.EqvGen.rel s t h

/-- What no edit changes is the same for all spellings. -/
theorem eq_of_edit {α : Type} {f : List Char → α} (kept : ∀ {s t}, Edit s t → f s = f t)
    {s t : List Char} (h : Respelled s t) : f s = f t := by
  induction h with
  | rel s t edit => exact kept edit
  | refl s => rfl
  | symm s t _ ih => exact ih.symm
  | trans s t u _ _ first second => exact first.trans second

theorem map_toLower (front text : List Char) :
    Respelled (front ++ text) (front ++ text.map Char.toLower) := by
  induction text generalizing front with
  | nil => exact refl (front ++ [])
  | cons c rest ih =>
      have small : c.toLower = c.toLower.toLower := (apply_toLower Char.toLower (by decide) c).symm
      have others := ih (front ++ [c.toLower])
      rw [List.append_assoc, List.append_assoc] at others
      exact (of_edit (.letter small front rest)).trans others

section
variable {blanks : List Char} (h : ∀ c ∈ blanks, isBlank c = true) (text : List Char)
include h

theorem blank_append : Respelled (blanks ++ text) text := by
  induction blanks with
  | nil => exact refl text
  | cons blank rest ih =>
      obtain ⟨first, others⟩ := List.forall_mem_cons.mp h
      exact (of_edit (.start first (rest ++ text))).symm.trans (ih others)

theorem append_blank : Respelled (text ++ blanks) text := by
  induction blanks generalizing text with
  | nil =>
      rw [List.append_nil]
      exact refl text
  | cons blank rest ih =>
      obtain ⟨first, others⟩ := List.forall_mem_cons.mp h
      have kept := ih others (text ++ [blank])
      rw [List.append_assoc] at kept
      exact kept.trans (of_edit (.stop first text)).symm

end

theorem trim (text : List Char) : Respelled (Text.trim text) text := by
  have start : Respelled text (trimStart text) := by
    have blank : ∀ c ∈ text.takeWhile isBlank, isBlank c = true := fun _ => List.mem_takeWhile_imp
    have joined := blank_append blank (trimStart text)
    rwa [trimStart, List.takeWhile_append_dropWhile] at joined
  have stop : Respelled (trimStart text) (Text.trim text) := by
    have blank : ∀ c ∈ (trimStart text).rtakeWhile isBlank, isBlank c = true :=
      fun _ => List.mem_rtakeWhile_imp
    have joined := append_blank blank (trimEnd (trimStart text))
    rwa [trimEnd_eq_rdropWhile, List.rdropWhile_append_rtakeWhile] at joined
  exact (start.trans stop).symm

end Respelled

section
variable {s t : List Char}

theorem map_toLower_append_cons {c d : Char} (same : c.toLower = d.toLower)
    (front back : List Char) :
    (front ++ c :: back).map Char.toLower = (front ++ d :: back).map Char.toLower := by
  simp only [List.map_append, List.map_cons, same]

theorem trim_lower_of_edit (h : Edit s t) : trim (lower s) = trim (lower t) := by
  cases h with
  | @letter c d same front back =>
      rw [← lower_map_toLower, map_toLower_append_cons same, lower_map_toLower]
  | start h =>
      rw [← List.nil_append (_ :: s), lower_append_cons_blank h]
      exact (trim_blank_append (List.forall_mem_singleton.mpr h) _).symm
  | stop h =>
      rw [lower_append_cons_blank h]
      exact (trim_append_blank (List.forall_mem_singleton.mpr h) _).symm

theorem map_toLower_trim_of_edit (h : Edit s t) :
    (trim s).map Char.toLower = (trim t).map Char.toLower := by
  cases h with
  | letter same => rw [← trim_map_toLower, map_toLower_append_cons same, trim_map_toLower]
  | start h => rw [← List.singleton_append, trim_blank_append (List.forall_mem_singleton.mpr h)]
  | stop h => rw [trim_append_blank (List.forall_mem_singleton.mpr h)]

/-- Two texts are spellings of one if they agree without the blanks at their ends and with all
letters of ASCII small. -/
theorem respelled_iff :
    Respelled s t ↔ (trim s).map Char.toLower = (trim t).map Char.toLower := by
  constructor
  · exact Respelled.eq_of_edit map_toLower_trim_of_edit
  · intro same
    have first := (Respelled.trim s).symm.trans (Respelled.map_toLower [] (trim s))
    have second := (Respelled.trim t).symm.trans (Respelled.map_toLower [] (trim t))
    exact first.trans (same ▸ second.symm)

instance : Decidable (Respelled s t) :=
  decidable_of_iff _ respelled_iff.symm

theorem trim_lower_of_respelled (h : Respelled s t) : trim (lower s) = trim (lower t) :=
  h.eq_of_edit trim_lower_of_edit

theorem upper_trim_of_respelled (h : Respelled s t) : upper (trim s) = upper (trim t) := by
  rw [← upper_map_toLower (trim s), respelled_iff.mp h, upper_map_toLower]

end
end Giro.Text
