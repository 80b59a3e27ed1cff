import Giro.Proofs.Instruction.Writing
import Giro.Proofs.Text.Lower

/-!
Which currency is read where a code is written. Whatever the two accounts are called, it is the
first word between the amount and the first anchor, and only the code itself can make that another
word than the code: by a blank inside it, by an anchor, or by letters whose small and capital forms
are not each other's.
-/

namespace Giro

/-- A phrase with a space inside does not occur in a word. -/
theorem Text.IsWord.not_infix_of_space {phrase text : List Char} (h : IsWord text)
    (space : ' ' ∈ phrase) : ¬ phrase <:+: text := by
  intro inside
  have nonblank := h.2 ' ' (inside.subset space)
  rw [isBlank_space] at nonblank
  contradiction

namespace Instruction

/-- A payment of one unit of a currency between two accounts. -/
def payment (code debit credit : String) : String :=
  "debit 1 " ++ code ++ " from account " ++ debit ++ " for credit to account " ++ credit

def anchor : List Char := Grammar.debit.firstAnchor.toList

def laterAnchor : List Char := Grammar.debit.secondAnchor.toList

/-- What stands before the code. -/
def opening : List Char := "debit 1".toList

/-- In a payment with this code another one is read: the first word before the first anchor, which
may begin inside the code. The second anchor must not come before it. -/
def ReadsCurrency (code other : String) : Prop :=
  ∃ before after word more,
    Text.FirstOccurrence anchor (Text.lower code.toList ++ ' ' :: anchor) before after ∧
    ¬ laterAnchor <:+: before ∧ Text.words before = word :: more ∧ other = .ofList (Text.upper word)

section
variable {code debit credit other : String}

/-- What follows the first anchor that is written, in small letters and without the blanks at its
end. -/
def ending (debit credit : String) : List Char :=
  ' ' :: Text.lower debit.toList ++ ' ' :: laterAnchor ++
    Text.trimEnd (' ' :: Text.lower credit.toList)

theorem laterAnchor_infix_ending (debit credit : String) : laterAnchor <:+: ending debit credit :=
  ⟨' ' :: Text.lower debit.toList ++ [' '], Text.trimEnd (' ' :: Text.lower credit.toList), by
    simp [ending]⟩

theorem lower_payment : Text.lower (payment code debit credit).toList =
    opening ++ ' ' :: (Text.lower code.toList ++ ' ' :: (anchor ++
      ' ' :: (Text.lower debit.toList ++ ' ' :: (laterAnchor ++
        ' ' :: Text.lower credit.toList)))) := by
  have split : (payment code debit credit).toList =
      opening ++ ' ' :: (code.toList ++ ' ' :: (anchor ++
        ' ' :: (debit.toList ++ ' ' :: (laterAnchor ++ ' ' :: credit.toList)))) := by
    have first : "debit 1 ".toList = opening ++ [' '] := by decide
    have second : " from account ".toList = ' ' :: anchor ++ [' '] := by decide
    have third : " for credit to account ".toList = ' ' :: laterAnchor ++ [' '] := by decide
    simp only [payment, String.toList_append, first, second, third, List.append_assoc,
      List.cons_append, List.nil_append]
  have phrases : Text.lower opening = opening ∧ Text.lower anchor = anchor ∧
      Text.lower laterAnchor = laterAnchor := by
    decide +kernel
  simp only [split, Text.lower_append_space_cons, phrases]

theorem normalize_payment : normalize (payment code debit credit) =
    opening ++ ' ' :: (Text.lower code.toList ++ ' ' :: anchor ++ ending debit credit) := by
  have start : Text.trimStart opening = opening := by decide
  have stop : Text.trimEnd laterAnchor = laterAnchor := by decide
  have front := Text.trimEnd_append_of_ne_nil stop (by decide)
    (opening ++ ' ' :: (Text.lower code.toList ++ ' ' :: (anchor ++
      ' ' :: (Text.lower debit.toList ++ [' ']))))
  rw [normalize, lower_payment, Text.trim,
    Text.trimStart_append_of_ne_nil start (by decide)]
  have whole := Text.trimEnd_append front (' ' :: Text.lower credit.toList)
  simpa [ending] using whole

theorem scan_payment : scan Grammar.standard (payment code debit credit) =
    Grammar.debit.fields (normalize (payment code debit credit)) := by
  have chosen : Grammar.standard.find? (fun g =>
      g.verb.toList.isPrefixOf (normalize (payment code debit credit))) = some Grammar.debit := by
    rw [normalize_payment]
    exact Grammar.find?_standard (g := Grammar.debit) (by decide) _
  simp only [scan, chosen]

/-- The first anchor of the whole payment is the first one after the code begins. -/
theorem firstOccurrence_anchor {before after : List Char}
    (h : Text.FirstOccurrence anchor (Text.lower code.toList ++ ' ' :: anchor) before after)
    (debit credit : String) :
    Text.FirstOccurrence anchor (normalize (payment code debit credit))
      (opening ++ ' ' :: before) (after ++ ending debit credit) := by
  have split : normalize (payment code debit credit) =
      (opening ++ ' ' :: before) ++ anchor ++ (after ++ ending debit credit) := by
    rw [normalize_payment, h.eq_append]
    simp
  rw [split]
  refine Text.firstOccurrence_of_not_infix (by decide) ?_ _
  rw [List.append_assoc, List.cons_append]
  exact Text.not_infix_append_cons_of_ends (by decide) (h.not_infix_dropLast (by decide))
    (by decide)

theorem exists_firstOccurrence (code : String) : ∃ before after,
    Text.FirstOccurrence anchor (Text.lower code.toList ++ ' ' :: anchor) before after := by
  cases found : Text.cut? anchor (Text.lower code.toList ++ ' ' :: anchor) with
  | none =>
      refine absurd ⟨Text.lower code.toList ++ [' '], [], ?_⟩ (Text.cut?_eq_none_iff.mp found)
      simp
  | some pieces => exact ⟨_, _, Text.firstOccurrence_of_cut? found⟩

/-- The second anchor comes later than the first one, unless it stands before it as a whole. -/
theorem anchors_in_order_iff {before after front back : List Char}
    (first : Text.FirstOccurrence anchor (normalize (payment code debit credit))
      (opening ++ ' ' :: before) after)
    (second : Text.FirstOccurrence laterAnchor (normalize (payment code debit credit)) front back) :
    (opening ++ ' ' :: before).length < front.length ↔ ¬ laterAnchor <:+: before := by
  constructor
  · rintro later ⟨left, right, rfl⟩
    have earlier : front.length ≤ (opening ++ ' ' :: left).length := by
      refine second.length_le _ (right ++ anchor ++ after) ?_
      rw [first.eq_append]
      simp
    simp only [List.length_append, List.length_cons] at earlier later
    omega
  · intro absent
    by_contra notLater
    have eq := second.eq_append.symm.trans first.eq_append
    obtain same | earlier := Nat.eq_or_lt_of_le (Nat.le_of_not_lt notLater)
    · rw [List.append_assoc, List.append_assoc] at eq
      have heads := congrArg (fun text => text[1]?) (List.append_inj eq same).2
      exact absurd heads (by simp [anchor, laterAnchor, Grammar.debit])
    · -- The second anchor has the letter that the first one begins with only at its own head.
      have fits : (front ++ laterAnchor).length ≤ (opening ++ ' ' :: before).length :=
        Text.length_add_le_of_head_not_mem (c := 'f') eq earlier (by decide)
      obtain ⟨rest, inside⟩ := List.prefix_of_prefix_length_le ⟨back, second.eq_append.symm⟩
        first.before_prefix fits
      exact Text.not_infix_append_cons_of_ends (by decide) absent (by decide)
        ⟨front, rest, inside⟩

theorem words_terms_payment (before : List Char) :
    Text.words ((opening ++ ' ' :: before).drop Grammar.debit.verb.length) =
      ['1'] :: Text.words before := by
  have terms : (opening ++ ' ' :: before).drop Grammar.debit.verb.length =
      ' ' :: (['1'] ++ ' ' :: before) := rfl
  have digit : Text.IsWord ['1'] := by decide
  rw [terms, Text.words_cons_blank Text.isBlank_space,
    Text.words_append_blank _ digit.1 digit.2 Text.isBlank_space]

theorem reads_of_scan_payment {ins : Instruction}
    (h : scan Grammar.standard (payment code debit credit) = .ok ins) :
    ins.amount = "1" ∧ ReadsCurrency code ins.currency := by
  rw [scan_payment] at h
  obtain ⟨beforeFirst, afterFirst, beforeSecond, tail, amount, currency, rest, hfirst, hsecond,
    later, words, rfl⟩ := Grammar.fields_eq_ok h
  obtain ⟨before, after, first⟩ := exists_firstOccurrence code
  have atFirst := firstOccurrence_anchor first debit credit
  rw [← anchor, Text.cut?_eq_some_iff.mpr atFirst, Option.some.injEq, Prod.mk.injEq] at hfirst
  obtain ⟨rfl, rfl⟩ := hfirst
  rw [words_terms_payment, List.cons.injEq] at words
  obtain ⟨rfl, words⟩ := words
  have atSecond := Text.firstOccurrence_of_cut? hsecond
  exact ⟨rfl, before, after, currency, rest, first,
    (anchors_in_order_iff atFirst atSecond).mp later, words, rfl⟩

theorem exists_scan_payment_of_reads (h : ReadsCurrency code other) (debit credit : String) :
    ∃ ins, scan Grammar.standard (payment code debit credit) = .ok ins ∧ ins.currency = other := by
  obtain ⟨before, after, word, more, first, absent, words, rfl⟩ := h
  have atFirst := firstOccurrence_anchor first debit credit
  obtain ⟨front, back, found⟩ : ∃ front back,
      Text.cut? laterAnchor (normalize (payment code debit credit)) = some (front, back) := by
    cases found : Text.cut? laterAnchor (normalize (payment code debit credit)) with
    | none =>
        refine absurd ?_ (Text.cut?_eq_none_iff.mp found)
        rw [atFirst.eq_append]
        have inside := laterAnchor_infix_ending debit credit
        exact List.infix_append_of_infix_right (List.infix_append_of_infix_right inside)
    | some pieces => exact ⟨_, _, rfl⟩
  have atSecond := Text.firstOccurrence_of_cut? found
  have later := (anchors_in_order_iff atFirst atSecond).mpr absent
  have order : ((opening ++ ' ' :: before).isEmpty ||
      decide (front.length ≤ (opening ++ ' ' :: before).length)) = false := by
    rw [Bool.or_eq_false_iff, decide_eq_false_iff_not]
    exact ⟨rfl, Nat.not_le_of_lt later⟩
  have cuts := Text.cut?_eq_some_iff.mpr atFirst
  rw [anchor] at cuts
  rw [laterAnchor] at found
  rw [scan_payment]
  simp only [Grammar.fields, cuts, found, order, words_terms_payment, words, if_false,
    Bool.false_eq_true]
  exact ⟨_, rfl, rfl⟩

/-- A word is read as the capital form of its small form. -/
theorem readsCurrency_iff_of_isWord (h : Text.IsWord code.toList) :
    ReadsCurrency code other ↔ other = capital (small code) := by
  have word := h.lower
  have first : Text.FirstOccurrence anchor (Text.lower code.toList ++ ' ' :: anchor)
      (Text.lower code.toList ++ [' ']) [] := by
    have split : Text.lower code.toList ++ ' ' :: anchor =
        (Text.lower code.toList ++ [' ']) ++ anchor ++ [] := by
      simp
    rw [split]
    refine Text.firstOccurrence_of_not_infix (by decide) ?_ _
    rw [List.append_assoc, List.singleton_append]
    exact Text.not_infix_append_cons_of_begins (word.not_infix_of_space (by decide))
      (Text.not_infix_dropLast (by decide)) (by decide)
  have absent : ¬ laterAnchor <:+: Text.lower code.toList ++ [' '] :=
    Text.not_infix_append_cons_of_begins (word.not_infix_of_space (by decide)) (by decide)
      (by decide)
  have words : Text.words (Text.lower code.toList ++ [' ']) = [Text.lower code.toList] := by
    rw [Text.words_append_blank [] word.1 word.2 Text.isBlank_space, Text.words_nil]
  have read : capital (small code) = .ofList (Text.upper (Text.lower code.toList)) := by
    rw [capital, small, String.toList_ofList]
  rw [read]
  constructor
  · rintro ⟨before, after, word', more, other', -, words', rfl⟩
    have same := (Text.cut?_eq_some_iff.mpr other').symm.trans (Text.cut?_eq_some_iff.mpr first)
    obtain ⟨rfl, -⟩ := Prod.mk.inj (Option.some.inj same)
    rw [words, List.cons.injEq] at words'
    rw [words'.1]
  · rintro rfl
    exact ⟨_, _, _, _, first, absent, words, rfl⟩

end
end Instruction
end Giro
