import Mathlib.Data.List.DropRight
import Giro.Text.Blank

/-!
What trimming leaves: nothing of a blank text, and otherwise a text whose last character is not
blank. Blanks at the two ends do not matter to it, and in a text that is joined from two the inner
ends are not touched.
-/

namespace Giro.Text

/-- At least one character, and none of them blank. -/
def IsWord (text : List Char) : Prop :=
  text ≠ [] ∧ ∀ c ∈ text, isBlank c = false

instance (text : List Char) : Decidable (IsWord text) :=
  decidable_of_iff (text ≠ [] ∧ (text.all fun c => !isBlank c) = true) (by simp [IsWord])

theorem IsWord.count_space {text : List Char} (h : IsWord text) : text.count ' ' = 0 := by
  rw [List.count_eq_zero]
  intro member
  have nonblank := h.2 ' ' member
  rw [isBlank_space] at nonblank
  contradiction

theorem trimStart_eq_nil_iff {text : List Char} :
    trimStart text = [] ↔ ∀ c ∈ text, isBlank c = true :=
  List.dropWhile_eq_nil_iff

theorem trimEnd_eq_rdropWhile (text : List Char) : trimEnd text = text.rdropWhile isBlank :=
  rfl

theorem trim_eq_nil_iff {text : List Char} : trim text = [] ↔ ∀ c ∈ text, isBlank c = true := by
  rw [← trimStart_eq_nil_iff, trim, trimEnd_eq_rdropWhile, List.rdropWhile_eq_nil_iff]
  constructor
  · intro all
    by_contra rest
    have stop := List.head_dropWhile_not isBlank rest
    have blank := all _ (List.head_mem rest)
    simp only [trimStart] at blank
    simp [blank] at stop
  · intro nothing
    simp [nothing]

theorem not_isBlank_getLast_trim {text : List Char} (h : trim text ≠ []) :
    isBlank ((trim text).getLast h) = false :=
  eq_false_of_ne_true (List.rdropWhile_last_not isBlank (trimStart text) h)

/-- A piece at the end of a trimmed text is not blank, unless it is empty. -/
theorem trim_ne_nil_of_trim_eq_append {text front back : List Char}
    (eq : trim text = front ++ back) (nonempty : back ≠ []) : trim back ≠ [] := by
  intro nothing
  have whole : trim text ≠ [] := by simp [eq, nonempty]
  have last : isBlank (back.getLast nonempty) = false := by
    have h := not_isBlank_getLast_trim whole
    simpa only [eq, List.getLast_append_of_ne_nil _ nonempty] using h
  have blank := trim_eq_nil_iff.mp nothing _ (List.getLast_mem nonempty)
  simp [blank] at last

theorem trimStart_append {front back : List Char} (h : trimStart back = back) :
    trimStart (front ++ back) = trimStart front ++ back := by
  simp only [trimStart] at h ⊢
  rw [List.dropWhile_append]
  split
  · next nothing => rw [List.isEmpty_iff.mp nothing, h, List.nil_append]
  · rfl

theorem trimStart_append_of_ne_nil {front : List Char} (h : trimStart front = front)
    (nonempty : front ≠ []) (back : List Char) : trimStart (front ++ back) = front ++ back := by
  simp only [trimStart] at h ⊢
  rw [List.dropWhile_append, h, if_neg (by simpa using nonempty)]

theorem trimStart_reverse_of_trimEnd {text : List Char} (h : trimEnd text = text) :
    trimStart text.reverse = text.reverse := by
  rw [← List.reverse_inj, List.reverse_reverse]
  exact h

theorem trimEnd_append {front : List Char} (h : trimEnd front = front) (back : List Char) :
    trimEnd (front ++ back) = front ++ trimEnd back := by
  simp only [trimEnd]
  rw [List.reverse_append, trimStart_append (trimStart_reverse_of_trimEnd h),
    List.reverse_append, List.reverse_reverse]

theorem trimEnd_append_of_ne_nil {back : List Char} (h : trimEnd back = back)
    (nonempty : back ≠ []) (front : List Char) : trimEnd (front ++ back) = front ++ back := by
  simp only [trimEnd]
  rw [List.reverse_append, trimStart_append_of_ne_nil (trimStart_reverse_of_trimEnd h)
    (by simpa using nonempty), List.reverse_append, List.reverse_reverse, List.reverse_reverse]

/-- A trimmed text is trimmed at both ends. -/
theorem trim_eq_self_iff {text : List Char} :
    trim text = text ↔ trimStart text = text ∧ trimEnd text = text := by
  constructor
  · intro h
    have shorter : (trim text).length ≤ (trimStart text).length :=
      (List.rdropWhile_prefix isBlank (trimStart text)).length_le
    rw [h] at shorter
    have start : trimStart text = text :=
      (List.dropWhile_suffix isBlank).eq_of_length_le shorter
    refine ⟨start, ?_⟩
    rwa [trim, start] at h
  · rintro ⟨start, stop⟩
    rw [trim, start, stop]

theorem trim_sublist (text : List Char) : (trim text).Sublist text := by
  have stop : (trim text).Sublist (trimStart text) := (List.rdropWhile_prefix isBlank _).sublist
  exact stop.trans (List.dropWhile_suffix isBlank).sublist

theorem trim_trim (text : List Char) : trim (trim text) = trim text := by
  rw [trim_eq_self_iff]
  constructor
  · by_cases nothing : trim text = []
    · rw [nothing]
      rfl
    obtain ⟨rest, eq⟩ := List.rdropWhile_prefix isBlank (trimStart text)
    rw [← trimEnd_eq_rdropWhile, ← trim] at eq
    have start : trimStart (trim text ++ rest) = trim text ++ rest := by
      rw [eq]
      exact List.dropWhile_idempotent isBlank text
    have partly : trimStart (trim text) ≠ [] := by
      intro blank
      have last := trimStart_eq_nil_iff.mp blank _ (List.getLast_mem nothing)
      rw [not_isBlank_getLast_trim nothing] at last
      contradiction
    rw [trimStart, List.dropWhile_append, ← trimStart, if_neg (by simpa using partly)] at start
    exact List.append_cancel_right start
  · rw [trim, trimEnd_eq_rdropWhile, trimEnd_eq_rdropWhile, List.rdropWhile_idempotent]

theorem trimStart_cons_eq_self_iff {c : Char} {rest : List Char} :
    trimStart (c :: rest) = c :: rest ↔ isBlank c = false := by
  rw [trimStart, List.dropWhile_cons]
  split
  · next blank =>
    have shorter := (List.dropWhile_suffix isBlank (l := rest)).length_le
    simp only [blank, Bool.true_eq_false, iff_false]
    intro same
    have length := congrArg List.length same
    rw [List.length_cons] at length
    omega
  · next nonblank => simpa using nonblank

theorem trimEnd_append_singleton_eq_self_iff {c : Char} {front : List Char} :
    trimEnd (front ++ [c]) = front ++ [c] ↔ isBlank c = false := by
  have mirrored : trimStart (c :: front.reverse) = c :: front.reverse ↔ isBlank c = false :=
    trimStart_cons_eq_self_iff
  rw [← mirrored, trimEnd, List.reverse_append, List.reverse_eq_iff, List.reverse_append]
  rfl

theorem IsWord.trimStart_append {word : List Char} (h : IsWord word) (rest : List Char) :
    trimStart (word ++ rest) = word ++ rest := by
  obtain ⟨c, more, rfl⟩ := List.exists_cons_of_ne_nil h.1
  exact trimStart_cons_eq_self_iff.mpr (h.2 c List.mem_cons_self)

theorem IsWord.trimEnd_append {word : List Char} (h : IsWord word) (front : List Char) :
    trimEnd (front ++ word) = front ++ word := by
  obtain ⟨more, c, rfl⟩ := (List.eq_nil_or_concat' word).resolve_left h.1
  rw [← List.append_assoc]
  exact trimEnd_append_singleton_eq_self_iff.mpr (h.2 c (by simp))

section
variable {blanks : List Char} (h : ∀ c ∈ blanks, isBlank c = true) (text : List Char)
include h

theorem trimStart_blank_append : trimStart (blanks ++ text) = trimStart text :=
  List.dropWhile_append_of_pos h

theorem trimEnd_append_blank : trimEnd (text ++ blanks) = trimEnd text := by
  have mirrored : ∀ c ∈ blanks.reverse, isBlank c = true := by simpa using h
  rw [trimEnd, List.reverse_append, trimStart_blank_append mirrored, trimEnd]

theorem trim_blank_append : trim (blanks ++ text) = trim text := by
  rw [trim, trimStart_blank_append h, trim]

theorem trim_append_blank : trim (text ++ blanks) = trim text := by
  by_cases nothing : trimStart text = []
  · have blank : ∀ c ∈ text ++ blanks, isBlank c = true := by
      rw [List.forall_mem_append]
      exact ⟨trimStart_eq_nil_iff.mp nothing, h⟩
    rw [trim_eq_nil_iff.mpr blank, trim, nothing]
    rfl
  · have start : trimStart (text ++ blanks) = trimStart text ++ blanks := by
      simp only [trimStart] at nothing ⊢
      rw [List.dropWhile_append, if_neg (by simpa using nothing)]
    rw [trim, start, trimEnd_append_blank h, trim]

end

theorem isBlank_of_mem_space : ∀ c ∈ [' '], isBlank c = true := by
  simp [isBlank_space]

theorem trim_space_cons (text : List Char) : trim (' ' :: text) = trim text :=
  trim_blank_append isBlank_of_mem_space text

theorem trim_append_space (text : List Char) : trim (text ++ [' ']) = trim text :=
  trim_append_blank isBlank_of_mem_space text

theorem trim_trimEnd (text : List Char) : trim (trimEnd text) = trim text := by
  have blank : ∀ c ∈ text.rtakeWhile isBlank, isBlank c = true :=
    fun _ => List.mem_rtakeWhile_imp
  calc trim (trimEnd text) = trim (trimEnd text ++ text.rtakeWhile isBlank) :=
        (trim_append_blank blank _).symm
    _ = trim text := by rw [trimEnd_eq_rdropWhile, List.rdropWhile_append_rtakeWhile]

end Giro.Text
