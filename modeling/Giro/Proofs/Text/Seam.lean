import Mathlib.Data.List.Infix
import Giro.Text.Cut

/-!
Texts joined at a character. A phrase that occurs in the joined text occurs in one of its parts or
has the character itself, and then what stands before the character in the phrase ends the first
part and what stands after it begins the second. For a given phrase these are finitely many cases.
-/

namespace Giro.Text

/-- What stands before and after each occurrence of a character in a phrase. -/
def seams (mark : Char) : List Char → List (List Char × List Char)
  | [] => []
  | c :: rest =>
      let later := (seams mark rest).map fun seam => (c :: seam.1, seam.2)
      if c = mark then ([], rest) :: later else later

theorem mem_seams {mark : Char} {phrase left right : List Char} :
    (left, right) ∈ seams mark phrase ↔ phrase = left ++ mark :: right := by
  induction phrase generalizing left with
  | nil => simp [seams]
  | cons c rest ih =>
      cases left with
      | nil =>
          simp only [seams]
          split
          · next same => simp [same, eq_comm]
          · next other => simp [other]
      | cons d left =>
          have later : (d :: left, right) ∈ seams mark (c :: rest) ↔
              d = c ∧ (left, right) ∈ seams mark rest := by
            simp only [seams]
            split <;> simp [eq_comm, and_comm]
          rw [later, ih, List.cons_append, List.cons.injEq, eq_comm]

theorem infix_append_cons_iff {phrase front back : List Char} {mark : Char} :
    phrase <:+: front ++ mark :: back ↔ phrase <:+: front ∨ phrase <:+: back ∨
      ∃ seam ∈ seams mark phrase, seam.1 <:+ front ∧ seam.2 <+: back := by
  constructor
  · intro h
    obtain inFront | inBack | ⟨left, right, rfl, ends, begins⟩ := List.infix_append_iff.mp h
    · exact .inl inFront
    · obtain begins | inside := List.infix_cons_iff.mp inBack
      · obtain rfl | ⟨right, rfl, continues⟩ := List.prefix_cons_iff.mp begins
        · exact .inl (List.nil_infix)
        · exact .inr (.inr ⟨([], right), mem_seams.mpr rfl, List.nil_suffix, continues⟩)
      · exact .inr (.inl inside)
    · obtain rfl | ⟨right, rfl, continues⟩ := List.prefix_cons_iff.mp begins
      · rw [List.append_nil]
        exact .inl ends.isInfix
      · exact .inr (.inr ⟨(left, right), mem_seams.mpr rfl, ends, continues⟩)
  · rintro (inFront | inBack | ⟨⟨left, right⟩, member, ⟨before, rfl⟩, ⟨after, rfl⟩⟩)
    · exact List.infix_append_of_infix_left inFront
    · exact List.infix_append_of_infix_right (List.infix_cons inBack)
    · rw [mem_seams.mp member]
      exact ⟨before, after, by simp⟩

theorem not_infix_append_cons {phrase front back : List Char} {mark : Char}
    (inFront : ¬ phrase <:+: front) (inBack : ¬ phrase <:+: back)
    (across : ∀ seam ∈ seams mark phrase, ¬ (seam.1 <:+ front ∧ seam.2 <+: back)) :
    ¬ phrase <:+: front ++ mark :: back := by
  rw [infix_append_cons_iff]
  rintro (inside | inside | ⟨seam, member, broken⟩)
  · exact inFront inside
  · exact inBack inside
  · exact across seam member broken

theorem not_infix_append_cons_of_ends {phrase front back : List Char} {mark : Char}
    (inFront : ¬ phrase <:+: front) (inBack : ¬ phrase <:+: back)
    (ends : ∀ seam ∈ seams mark phrase, ¬ seam.1 <:+ front) :
    ¬ phrase <:+: front ++ mark :: back :=
  not_infix_append_cons inFront inBack fun seam member broken => ends seam member broken.1

theorem not_infix_append_cons_of_begins {phrase front back : List Char} {mark : Char}
    (inFront : ¬ phrase <:+: front) (inBack : ¬ phrase <:+: back)
    (begins : ∀ seam ∈ seams mark phrase, ¬ seam.2 <+: back) :
    ¬ phrase <:+: front ++ mark :: back :=
  not_infix_append_cons inFront inBack fun seam member broken => begins seam member broken.2

end Giro.Text
