import Giro.Proofs.Instruction.Pieces
import Giro.Proofs.Text.Seam
import Giro.Proofs.Text.Small

/-!
Writing an instruction. Five texts are put between the phrases of a grammar with single spaces, and
an instruction written so is read back into these texts, provided that they are in small letters and
trimmed and that none of them holds the phrase that is to follow it. No phrase arises where a text
meets the fixed words around it: that is read off the phrases, by the ways in which each of them can
be broken at a space.
-/

namespace Giro

namespace Grammar

/-- What keeps the anchors apart from the other phrases of a grammar when there are spaces around
them. Where an anchor is broken at a space, its left part does not end the phrase before that space
and its right part does not begin the phrase after it. -/
structure Tight (g : Grammar) : Prop where
  small : ∀ phrase ∈ [g.verb, g.firstAnchor, g.secondAnchor], Giro.small phrase = phrase
  verb_ne_nil : g.verb.toList ≠ []
  first_ne_nil : g.firstAnchor.toList ≠ []
  second_ne_nil : g.secondAnchor.toList ≠ []
  verb_start : Text.trimStart g.verb.toList = g.verb.toList
  second_end : Text.trimEnd g.secondAnchor.toList = g.secondAnchor.toList
  verb_count : g.verb.toList.count ' ' = 0
  second_count : 2 < g.secondAnchor.toList.count ' '
  first_not_in_verb : ¬ g.firstAnchor.toList <:+: g.verb.toList
  second_not_in_first : ¬ g.secondAnchor.toList <:+: g.firstAnchor.toList
  first_ends_verb : ∀ seam ∈ Text.seams ' ' g.firstAnchor.toList, ¬ seam.1 <:+ g.verb.toList
  first_begins_first : ∀ seam ∈ Text.seams ' ' g.firstAnchor.toList,
    ¬ seam.2 <+: g.firstAnchor.toList
  second_begins_first : ∀ seam ∈ Text.seams ' ' g.secondAnchor.toList,
    ¬ seam.2 <+: g.firstAnchor.toList
  second_ends_first : ∀ seam ∈ Text.seams ' ' g.secondAnchor.toList,
    ¬ seam.1 <:+ g.firstAnchor.toList ∧ ¬ g.firstAnchor.toList <:+ seam.1
  second_begins_second : ∀ seam ∈ Text.seams ' ' g.secondAnchor.toList,
    ¬ seam.2 <+: g.secondAnchor.toList

theorem tight_of_mem_standard {g : Grammar} (h : g ∈ standard) : g.Tight := by
  simp only [standard, List.mem_cons, List.not_mem_nil, or_false] at h
  obtain rfl | rfl := h <;> constructor <;> decide +kernel

/-- No other verb begins a text that this one begins. -/
theorem find?_standard {g : Grammar} (h : g ∈ standard) (rest : List Char) :
    (standard.find? fun other => other.verb.toList.isPrefixOf (g.verb.toList ++ rest)) = some g := by
  simp only [standard, List.mem_cons, List.not_mem_nil, or_false] at h
  obtain rfl | rfl := h <;> rfl

end Grammar

/-- The texts of an instruction, in the order in which they are written. -/
structure Wording where
  amount : String
  currency : String
  first : String
  second : String
  date : Option String

namespace Wording

/-- What follows the second account: the date after its own phrase, where there is one. -/
def dateText : Option String → String
  | none => ""
  | some date => Grammar.dateAnchor ++ date

/-- The instruction in the phrases of a grammar, with one space between its parts. -/
def text (w : Wording) (g : Grammar) : String :=
  g.verb ++ " " ++ w.amount ++ " " ++ w.currency ++ " " ++ g.firstAnchor ++ " " ++ w.first ++ " " ++
    g.secondAnchor ++ " " ++ w.second ++ dateText w.date

/-- What the texts say in a grammar. -/
def instruction (w : Wording) (g : Grammar) : Instruction where
  form := g.form
  amount := w.amount
  currency := capital w.currency
  debitAccount := if g.debitFirst then w.first else w.second
  creditAccount := if g.debitFirst then w.second else w.first
  executeBy := w.date

/-- The texts are in small letters, words or trimmed, and none of them holds the phrase that is to
follow it. -/
structure Legible (w : Wording) (g : Grammar) : Prop where
  small : ∀ text ∈ [w.amount, w.currency, w.first, w.second] ++ w.date.toList,
    Giro.small text = text
  amount : Text.IsWord w.amount.toList
  currency : Text.IsWord w.currency.toList
  first : Text.trim w.first.toList = w.first.toList
  second : Text.trim w.second.toList = w.second.toList
  date : ∀ date ∈ w.date, date ≠ "" ∧ Text.trim date.toList = date.toList
  terms_free : ¬ g.firstAnchor.toList <:+: (w.amount ++ " " ++ w.currency).toList
  first_free : ¬ g.secondAnchor.toList <:+: w.first.toList
  second_free : ¬ Grammar.dateAnchor.toList <:+: (" " ++ w.second ++ " ").toList

/-- The pieces of the written instruction: the texts with the spaces around them, without the space
that would be left at its end. -/
def pieces (w : Wording) (g : Grammar) : Instruction.Pieces where
  grammar := g
  terms := ' ' :: w.amount.toList ++ ' ' :: w.currency.toList ++ [' ']
  first := ' ' :: w.first.toList ++ [' ']
  second :=
    match w.date with
    | none => Text.trimEnd (' ' :: w.second.toList)
    | some _ => ' ' :: w.second.toList
  date := w.date.map String.toList

section
variable {w : Wording} {g : Grammar}

theorem Legible.toList_date (h : w.Legible g) {date : String} (present : w.date = some date) :
    date.toList ≠ [] ∧ Text.trim date.toList = date.toList := by
  obtain ⟨nonempty, trimmed⟩ := h.date date present
  exact ⟨by simpa using nonempty, trimmed⟩

theorem words_terms (h : w.Legible g) :
    Text.words (w.pieces g).terms = [w.amount.toList, w.currency.toList] := by
  simp only [pieces, List.cons_append, List.append_assoc]
  rw [Text.words_cons_blank Text.isBlank_space,
    Text.words_append_blank _ h.amount.1 h.amount.2 Text.isBlank_space,
    Text.words_append_blank _ h.currency.1 h.currency.2 Text.isBlank_space, Text.words_nil]

theorem trim_first (h : w.Legible g) : Text.trim (w.pieces g).first = w.first.toList := by
  simp only [pieces, List.cons_append]
  rw [Text.trim_space_cons, Text.trim_append_space]
  exact h.first

theorem trim_second (h : w.Legible g) : Text.trim (w.pieces g).second = w.second.toList := by
  simp only [pieces]
  split
  · rw [Text.trim_trimEnd, Text.trim_space_cons]
    exact h.second
  · rw [Text.trim_space_cons]
    exact h.second

theorem spells_pieces (h : w.Legible g) : (w.pieces g).Spells (w.instruction g) := by
  refine ⟨rfl, ⟨_, _, [], words_terms h, ?_, rfl⟩, ?_, ?_, ?_⟩
  · exact String.ofList_toList.symm
  · rw [trim_first h, String.ofList_toList]
    simp only [pieces, instruction]
    split <;> rfl
  · rw [trim_second h, String.ofList_toList]
    simp only [pieces, instruction]
    split <;> rfl
  · cases present : w.date with
    | none => simp [pieces, instruction, present]
    | some date => simp [pieces, instruction, present, (h.toList_date present).2]

theorem lower_text (tight : g.Tight) (h : w.Legible g) :
    Text.lower (w.text g).toList = (w.text g).toList := by
  have phrases : ∀ phrase ∈ [g.verb, g.firstAnchor, g.secondAnchor],
      ∀ c ∈ phrase.toList, Text.lowerChar c = [c] :=
    fun phrase member => small_eq_self_iff.mp (tight.small phrase member)
  have texts : ∀ text ∈ [w.amount, w.currency, w.first, w.second],
      ∀ c ∈ text.toList, Text.lowerChar c = [c] :=
    fun text member => small_eq_self_iff.mp (h.small text (List.mem_append_left _ member))
  have space := small_eq_self_iff.mp (show small " " = " " by decide)
  have date : ∀ c ∈ (dateText w.date).toList, Text.lowerChar c = [c] := by
    cases present : w.date with
    | none => simp [dateText]
    | some date =>
        have anchor := small_eq_self_iff.mp
          (show small Grammar.dateAnchor = Grammar.dateAnchor by decide)
        have own := small_eq_self_iff.mp (h.small date (by simp [present]))
        rw [dateText, String.toList_append, List.forall_mem_append]
        exact ⟨anchor, own⟩
  simp only [List.forall_mem_cons, List.not_mem_nil, false_implies, implies_true, and_true]
    at texts phrases
  obtain ⟨verb, firstAnchor, secondAnchor⟩ := phrases
  obtain ⟨amount, currency, first, second⟩ := texts
  rw [Text.lower_eq_self_iff]
  simp only [text, String.toList_append, List.forall_mem_append, and_assoc]
  exact ⟨verb, space, amount, space, currency, space, firstAnchor, space, first, space,
    secondAnchor, space, second, date⟩

/-- Only the text after the second anchor can end in a blank. -/
theorem trimEnd_tail (h : w.Legible g) :
    Text.trimEnd (' ' :: w.second.toList ++ (dateText w.date).toList) = (w.pieces g).tail := by
  cases present : w.date with
  | none => simp [pieces, Instruction.Pieces.tail, Instruction.dated, dateText, present]
  | some date =>
      obtain ⟨nonempty, trimmed⟩ := h.toList_date present
      have kept := Text.trimEnd_append_of_ne_nil (Text.trim_eq_self_iff.mp trimmed).2 nonempty
        (' ' :: w.second.toList ++ Grammar.dateAnchor.toList)
      simpa [pieces, Instruction.Pieces.tail, Instruction.dated, dateText, present] using kept

theorem normalize_text (tight : g.Tight) (h : w.Legible g) :
    Instruction.normalize (w.text g) = (w.pieces g).text := by
  have split : (w.text g).toList =
      (w.pieces g).head ++ g.firstAnchor.toList ++ (w.pieces g).first ++ g.secondAnchor.toList ++
        (' ' :: w.second.toList ++ (dateText w.date).toList) := by
    simp [text, pieces, Instruction.Pieces.head]
  have start : Text.trimStart (w.text g).toList = (w.text g).toList := by
    rw [split]
    simp only [Instruction.Pieces.head, List.append_assoc]
    exact Text.trimStart_append_of_ne_nil tight.verb_start tight.verb_ne_nil _
  have stop := Text.trimEnd_append_of_ne_nil tight.second_end tight.second_ne_nil
    ((w.pieces g).head ++ g.firstAnchor.toList ++ (w.pieces g).first)
  rw [Instruction.normalize, lower_text tight h, Text.trim, start, split,
    Text.trimEnd_append stop, trimEnd_tail h]
  rfl

/-- Before it is written, the first anchor has not begun. -/
theorem first_absent (tight : g.Tight) (h : w.Legible g) :
    ¬ g.firstAnchor.toList <:+: (w.pieces g).head ++ g.firstAnchor.toList.dropLast := by
  have split : (w.pieces g).head ++ g.firstAnchor.toList.dropLast =
      g.verb.toList ++ ' ' :: ((w.amount ++ " " ++ w.currency).toList ++
        ' ' :: g.firstAnchor.toList.dropLast) := by
    simp [pieces, Instruction.Pieces.head]
  rw [split]
  refine Text.not_infix_append_cons tight.first_not_in_verb ?_ ?_
  · refine Text.not_infix_append_cons h.terms_free
      (Text.not_infix_dropLast tight.first_ne_nil) ?_
    rintro seam member ⟨-, begins⟩
    exact tight.first_begins_first seam member (begins.trans (List.dropLast_prefix _))
  · rintro seam member ⟨ends, -⟩
    exact tight.first_ends_verb seam member ends

/-- Up to the first anchor there are too few spaces for the second one. -/
theorem second_absent_of_terms (tight : g.Tight) (h : w.Legible g) :
    ¬ g.secondAnchor.toList <:+:
      g.verb.toList ++ ' ' :: (w.amount.toList ++ ' ' :: w.currency.toList) ++
        ' ' :: g.firstAnchor.toList := by
  refine Text.not_infix_append_cons ?_ tight.second_not_in_first ?_
  · intro inside
    have spaces := inside.count_le ' '
    have more := tight.second_count
    simp only [List.count_append, List.count_cons_self, tight.verb_count, h.amount.count_space,
      h.currency.count_space] at spaces
    omega
  · rintro seam member ⟨-, begins⟩
    exact tight.second_begins_first seam member begins

/-- Before it is written, the second anchor has not begun. -/
theorem second_absent (tight : g.Tight) (h : w.Legible g) :
    ¬ g.secondAnchor.toList <:+:
      (w.pieces g).head ++ g.firstAnchor.toList ++ (w.pieces g).first ++
        g.secondAnchor.toList.dropLast := by
  have split : (w.pieces g).head ++ g.firstAnchor.toList ++ (w.pieces g).first ++
      g.secondAnchor.toList.dropLast =
      (g.verb.toList ++ ' ' :: (w.amount.toList ++ ' ' :: w.currency.toList) ++
        ' ' :: g.firstAnchor.toList ++ ' ' :: w.first.toList) ++
        ' ' :: g.secondAnchor.toList.dropLast := by
    simp [pieces, Instruction.Pieces.head]
  rw [split]
  refine Text.not_infix_append_cons ?_ (Text.not_infix_dropLast tight.second_ne_nil) ?_
  · refine Text.not_infix_append_cons (second_absent_of_terms tight h) h.first_free ?_
    rintro seam member ⟨ends, -⟩
    obtain ⟨longer, shorter⟩ := tight.second_ends_first seam member
    have anchor : g.firstAnchor.toList <:+
        g.verb.toList ++ ' ' :: (w.amount.toList ++ ' ' :: w.currency.toList) ++
          ' ' :: g.firstAnchor.toList :=
      ⟨g.verb.toList ++ ' ' :: (w.amount.toList ++ ' ' :: w.currency.toList) ++ [' '], by simp⟩
    obtain within | within := List.suffix_or_suffix_of_suffix ends anchor
    · exact longer within
    · exact shorter within
  · rintro seam member ⟨-, begins⟩
    exact tight.second_begins_second seam member (begins.trans (List.dropLast_prefix _))

theorem dateLeftmost_pieces (h : w.Legible g) :
    Instruction.DateLeftmost (w.pieces g).second (w.pieces g).date := by
  have absent : ¬ Grammar.dateAnchor.toList <:+: ' ' :: w.second.toList ++ [' '] := by
    simpa using h.second_free
  have absent' : ¬ Grammar.dateAnchor.toList <:+: ' ' :: w.second.toList :=
    fun inside => absent (List.infix_append_of_infix_left inside)
  cases present : w.date with
  | none =>
      simp only [pieces, present, Option.map_none, Instruction.DateLeftmost]
      intro inside
      have kept : Text.trimEnd (' ' :: w.second.toList) <+: ' ' :: w.second.toList :=
        List.rdropWhile_prefix Text.isBlank _
      exact absent' (inside.trans kept.isInfix)
  | some date =>
      simp only [pieces, present, Option.map_some, Instruction.DateLeftmost, Instruction.dated]
      refine Text.firstOccurrence_of_not_infix (by decide) ?_ _
      have split : ' ' :: w.second.toList ++ Grammar.dateAnchor.toList.dropLast =
          ' ' :: w.second.toList ++ ' ' :: ['o', 'n'] := rfl
      rw [split]
      refine Text.not_infix_append_cons absent' (by decide) ?_
      -- The space before the phrase cannot be its first one, and as its last one it would end it.
      rintro ⟨left, right⟩ member ⟨ends, begins⟩
      have seams : Text.seams ' ' Grammar.dateAnchor.toList =
          [([], ['o', 'n', ' ']), ([' ', 'o', 'n'], [])] := by decide
      rw [seams] at member
      simp only [List.mem_cons, Prod.mk.injEq, List.not_mem_nil, or_false] at member
      obtain ⟨rfl, rfl⟩ | ⟨rfl, rfl⟩ := member
      · exact absurd begins (by decide)
      · obtain ⟨before, eq⟩ := ends
        exact absent ⟨before, [], by rw [← eq]; simp [Grammar.dateAnchor]⟩

theorem leftmost_pieces (tight : g.Tight) (h : w.Legible g) : (w.pieces g).Leftmost := by
  refine ⟨?_, ?_, dateLeftmost_pieces h⟩
  · have text : (w.pieces g).text = (w.pieces g).head ++ g.firstAnchor.toList ++
        ((w.pieces g).first ++ g.secondAnchor.toList ++ (w.pieces g).tail) := by
      simp only [Instruction.Pieces.text, List.append_assoc]
      rfl
    rw [text]
    exact Text.firstOccurrence_of_not_infix tight.first_ne_nil (first_absent tight h) _
  · exact Text.firstOccurrence_of_not_infix tight.second_ne_nil (second_absent tight h) _

theorem fields_text (tight : g.Tight) (h : w.Legible g) :
    g.fields (Instruction.normalize (w.text g)) = .ok (w.instruction g) := by
  have nonblank : ∀ text ∈ (w.pieces g).date, Text.trim text ≠ [] := by
    intro text member
    obtain ⟨date, present, rfl⟩ := Option.map_eq_some_iff.mp member
    obtain ⟨nonempty, trimmed⟩ := h.toList_date present
    rwa [trimmed]
  rw [normalize_text tight h]
  exact Instruction.Pieces.fields_text (leftmost_pieces tight h) tight.first_ne_nil nonblank
    (spells_pieces h)

theorem find?_text (standard : g ∈ Grammar.standard) (h : w.Legible g) :
    (Grammar.standard.find? fun other =>
      other.verb.toList.isPrefixOf (Instruction.normalize (w.text g))) = some g := by
  rw [normalize_text (Grammar.tight_of_mem_standard standard) h]
  simp only [Instruction.Pieces.text, Instruction.Pieces.head, List.append_assoc]
  exact Grammar.find?_standard standard _

end
end Wording

namespace Instruction

/-- An instruction written in one of the grammars is read back into its texts. -/
theorem scan_text {w : Wording} {g : Grammar} (standard : g ∈ Grammar.standard)
    (legible : w.Legible g) : scan Grammar.standard (w.text g) = .ok (w.instruction g) := by
  have chosen := Wording.find?_text standard legible
  have fields := Wording.fields_text (Grammar.tight_of_mem_standard standard) legible
  simp only [scan, chosen, fields]

/-- Texts that are broken off the phrases are kept apart from them, and so is an empty account at
the end. -/
theorem scan_text_of_broken_phrases :
    (Wording.mk "from" "to" "a for credit to" "" none).Legible .debit ∧
    (Wording.mk "from" "to" "a for credit to" "" none).text .debit =
      "debit from to from account a for credit to for credit to account " ∧
    scan Grammar.standard "debit from to from account a for credit to for credit to account " =
      .ok ⟨.debit, "from", "TO", "a for credit to", "", none⟩ := by
  have legible : (Wording.mk "from" "to" "a for credit to" "" none).Legible .debit := by
    constructor <;> decide +kernel
  have written : (Wording.mk "from" "to" "a for credit to" "" none).text .debit =
      "debit from to from account a for credit to for credit to account " := rfl
  have said : (Wording.mk "from" "to" "a for credit to" "" none).instruction .debit =
      ⟨.debit, "from", "TO", "a for credit to", "", none⟩ := by
    decide +kernel
  refine ⟨legible, written, ?_⟩
  rw [← written, ← said]
  exact scan_text (by decide) legible

end Instruction
end Giro
