import Giro.Text.Ranges

/-!
Blank characters and what is done with them: trimming the two ends of a text and splitting it into
words. Besides the ASCII blanks the class holds the four information separators, the next-line and
no-break characters and the Unicode spaces; zero-width characters are not blank.
-/

namespace Giro.Text

def blankRanges : Ranges :=
  [(0x9, 0xd), (0x1c, 0x20), (0x85, 0x85), (0xa0, 0xa0), (0x1680, 0x1680), (0x2000, 0x200a),
   (0x2028, 0x2029), (0x202f, 0x202f), (0x205f, 0x205f), (0x3000, 0x3000)]

def isBlank (c : Char) : Bool :=
  blankRanges.covers c.toNat

def trimStart (text : List Char) : List Char :=
  text.dropWhile isBlank

def trimEnd (text : List Char) : List Char :=
  (trimStart text.reverse).reverse

def trim (text : List Char) : List Char :=
  trimEnd (trimStart text)

/-- The maximal runs of characters that are not blank, from left to right. -/
def words : List Char → List (List Char)
  | [] => []
  | c :: rest =>
      if isBlank c then words rest
      else match rest with
        | [] => [[c]]
        | next :: _ =>
            if isBlank next then [c] :: words rest
            else match words rest with
              | [] => [[c]]
              | word :: more => (c :: word) :: more

theorem isBlank_space : isBlank ' ' = true := by decide

@[simp] theorem trim_nil : trim [] = [] := rfl

@[simp] theorem words_nil : words [] = [] := rfl

theorem words_cons_blank {c : Char} (h : isBlank c = true) (rest : List Char) :
    words (c :: rest) = words rest := by
  simp [words, h]

/-- Every word has a character, and none of its characters is blank. -/
theorem ne_nil_of_mem_words {text word : List Char} (h : word ∈ words text) :
    word ≠ [] ∧ ∀ c ∈ word, isBlank c = false := by
  induction text generalizing word with
  | nil => simp at h
  | cons c rest ih =>
      simp only [words] at h
      split at h
      · exact ih h
      · next hc =>
        have hc : isBlank c = false := by simpa using hc
        split at h
        · simp at h; subst h; simp [hc]
        · split at h
          · rcases List.mem_cons.mp h with rfl | h
            · simp [hc]
            · exact ih h
          · split at h
            · simp at h; subst h; simp [hc]
            · next word' more eq =>
              rcases List.mem_cons.mp h with rfl | h
              · have first := (@ih word' (by simp [eq])).2
                exact ⟨by simp, by simpa [hc] using first⟩
              · exact ih (by simp [eq, h])

/-- The first word of a text that starts with one is the run up to the next blank. -/
theorem words_append_blank {word : List Char} {blank : Char} (rest : List Char)
    (hw : word ≠ []) (hc : ∀ c ∈ word, isBlank c = false) (hb : isBlank blank = true) :
    words (word ++ blank :: rest) = word :: words rest := by
  induction word with
  | nil => exact absurd rfl hw
  | cons c more ih =>
      have h : isBlank c = false := hc c (by simp)
      cases more with
      | nil => simp [words, h, hb]
      | cons d more =>
          have hd : isBlank d = false := hc d (by simp)
          have tail := ih (by simp) (fun x hx => hc x (by simp [hx]))
          simp only [List.cons_append] at tail ⊢
          rw [words]
          simp [h, hd, tail]

end Giro.Text
