import Giro.Proofs.Instruction.Pieces
import Giro.Proofs.Text.Spelling
import Giro.Proofs.Text.Upper

/-!
The form of the fields of an instruction, whatever the grammars are. Every field is cut out of a
normal text, and a part of a text in small letters is in small letters, so it does not matter where
the anchors stand: they may be empty, overlap or leave a slice of nothing.
-/

namespace Giro

namespace Text

theorem sublist_of_mem_words {text word : List Char} (h : word ∈ words text) :
    word.Sublist text := by
  fun_induction words text generalizing word with
  | case1 => simp at h
  | case2 c rest blank ih => exact (ih h).cons c
  | case3 c nonblank =>
      obtain rfl := List.mem_singleton.mp h
      exact List.Sublist.refl _
  | case4 c nonblank next rest blank ih =>
      obtain rfl | h := List.mem_cons.mp h
      · simp
      · exact (ih h).cons c
  | case5 c nonblank next rest nonblank' nothing =>
      simp only [nothing, List.mem_singleton] at h
      simp [h]
  | case6 c nonblank next rest nonblank' first more eq ih =>
      simp only [eq] at h ih
      obtain rfl | h := List.mem_cons.mp h
      · exact (ih List.mem_cons_self).cons_cons c
      · exact (ih (List.mem_cons_of_mem first h)).cons c

end Text

/-- The text is its own small form and trimmed. -/
def IsPlain (text : String) : Prop :=
  small text = text ∧ Text.trim text.toList = text.toList

instance (text : String) : Decidable (IsPlain text) :=
  inferInstanceAs (Decidable (_ ∧ _))

namespace Instruction

/-- What the fields of an instruction are as texts. -/
structure Normal (ins : Instruction) : Prop where
  amount : Text.IsWord ins.amount.toList ∧ small ins.amount = ins.amount
  currency : Text.IsWord ins.currency.toList ∧ capital ins.currency = ins.currency
  debitAccount : IsPlain ins.debitAccount
  creditAccount : IsPlain ins.creditAccount
  executeBy : ∀ date ∈ ins.executeBy, date ≠ "" ∧ IsPlain date

/-- All characters of the text are their own small forms. -/
def IsSmall (text : List Char) : Prop :=
  ∀ c ∈ text, Text.lowerChar c = [c]

section
variable {text part : List Char}

theorem IsSmall.of_sublist (h : IsSmall text) (inside : part.Sublist text) : IsSmall part :=
  fun c member => h c (inside.subset member)

theorem IsSmall.small_eq (h : IsSmall text) : small (.ofList text) = .ofList text := by
  rw [small_eq_self_iff, String.toList_ofList]
  exact h

theorem IsSmall.isPlain_trim (h : IsSmall text) : IsPlain (.ofList (Text.trim text)) := by
  refine ⟨(h.of_sublist (Text.trim_sublist text)).small_eq, ?_⟩
  rw [String.toList_ofList, Text.trim_trim]

theorem isSmall_normalize (text : String) : IsSmall (normalize text) :=
  fun c member => Text.lowerChar_of_mem_lowerFrom c ((Text.trim_sublist _).subset member)

/-- The account and the date are trimmed slices. -/
theorem splitDate_slices (text : List Char) :
    (∃ slice : List Char, slice.Sublist text ∧ (splitDate text).1 = Text.trim slice) ∧
      ∀ date ∈ (splitDate text).2, date ≠ [] ∧
        ∃ slice : List Char, slice.Sublist text ∧ date = Text.trim slice := by
  simp only [splitDate]
  split
  · exact ⟨⟨text, List.Sublist.refl text, rfl⟩,
      fun date present => absurd present (Option.not_mem_none date)⟩
  · next account rest found =>
    have eq := Text.eq_append_of_cut? found
    refine ⟨⟨account, by simp [eq], rfl⟩, fun date present => ?_⟩
    rw [Option.mem_def, Option.ite_none_left_eq_some, Option.some.injEq] at present
    obtain ⟨nonempty, rfl⟩ := present
    exact ⟨by simpa using nonempty, rest, by simp [eq], rfl⟩

theorem normal_splitDate (h : IsSmall text) :
    IsPlain (.ofList (splitDate text).1) ∧
      ∀ date ∈ (splitDate text).2, date ≠ [] ∧ IsPlain (.ofList date) := by
  obtain ⟨⟨slice, inside, eq⟩, dates⟩ := splitDate_slices text
  refine ⟨eq ▸ (h.of_sublist inside).isPlain_trim, fun date present => ?_⟩
  obtain ⟨nonempty, slice, inside, rfl⟩ := dates date present
  exact ⟨nonempty, (h.of_sublist inside).isPlain_trim⟩

/-- The fields lie in three slices of the text, and it does not matter where these are. -/
theorem exists_slices_of_fields {g : Grammar} {ins : Instruction}
    (found : g.fields text = .ok ins) :
    ∃ opening middle ending amount currency rest,
      opening.Sublist text ∧ middle.Sublist text ∧ ending.Sublist text ∧
      Text.words opening = amount :: currency :: rest ∧
      ins =
        let first := Text.trim middle
        let (second, date) := splitDate ending
        { form := g.form
          amount := .ofList amount
          currency := .ofList (Text.upper currency)
          debitAccount := .ofList (if g.debitFirst then first else second)
          creditAccount := .ofList (if g.debitFirst then second else first)
          executeBy := date.map String.ofList } := by
  obtain ⟨beforeFirst, afterFirst, beforeSecond, tail, amount, currency, rest, hfirst, hsecond, -,
    words, rfl⟩ := Grammar.fields_eq_ok found
  have first := Text.eq_append_of_cut? hfirst
  have second := Text.eq_append_of_cut? hsecond
  refine ⟨_, _, tail, amount, currency, rest, ?_, ?_, ?_, words, rfl⟩
  · exact (List.drop_sublist _ _).trans (by simp [first])
  · exact (List.drop_sublist _ _).trans (by simp [second])
  · simp [second]

/-- The fields of an instruction are drawn from a text: they are parts of it, the currency in
capital letters. -/
structure DrawnFrom (text : List Char) (ins : Instruction) : Prop where
  amount : ins.amount.toList.Sublist text
  currency : ∃ word : List Char, word.Sublist text ∧ ins.currency.toList = Text.upper word
  debitAccount : ins.debitAccount.toList.Sublist text
  creditAccount : ins.creditAccount.toList.Sublist text
  executeBy : ∀ date ∈ ins.executeBy, date.toList.Sublist text

theorem drawnFrom_of_fields {g : Grammar} {ins : Instruction} (found : g.fields text = .ok ins) :
    ins.DrawnFrom text := by
  obtain ⟨opening, middle, ending, amount, currency, rest, inOpening, inMiddle, inEnding, words,
    rfl⟩ := exists_slices_of_fields found
  have amountWord : amount ∈ Text.words opening := by simp [words]
  have currencyWord : currency ∈ Text.words opening := by simp [words]
  have first := (Text.trim_sublist middle).trans inMiddle
  obtain ⟨⟨account, inAccount, eq⟩, dates⟩ := splitDate_slices ending
  have second : (splitDate ending).1.Sublist text := by
    rw [eq]
    exact (Text.trim_sublist account).trans (inAccount.trans inEnding)
  refine ⟨?_, ⟨currency, ?_, String.toList_ofList⟩, ?_, ?_, ?_⟩
  · rw [String.toList_ofList]
    exact (Text.sublist_of_mem_words amountWord).trans inOpening
  · exact (Text.sublist_of_mem_words currencyWord).trans inOpening
  · rw [String.toList_ofList]
    cases g.debitFirst with
    | true => exact first
    | false => exact second
  · rw [String.toList_ofList]
    cases g.debitFirst with
    | true => exact second
    | false => exact first
  · intro text present
    obtain ⟨date, dated, rfl⟩ := Option.map_eq_some_iff.mp present
    obtain ⟨-, slice, inSlice, rfl⟩ := dates date dated
    rw [String.toList_ofList]
    exact (Text.trim_sublist slice).trans (inSlice.trans inEnding)

/-- Fields that are found in a text of small characters are normal, in any grammar. -/
theorem normal_of_fields {g : Grammar} {ins : Instruction} (h : IsSmall text)
    (found : g.fields text = .ok ins) : ins.Normal := by
  obtain ⟨opening, middle, ending, amount, currency, rest, inOpening, inMiddle, inEnding, words,
    rfl⟩ := exists_slices_of_fields found
  have amountWord : amount ∈ Text.words opening := by simp [words]
  have currencyWord : currency ∈ Text.words opening := by simp [words]
  have first : IsPlain (.ofList (Text.trim middle)) := (h.of_sublist inMiddle).isPlain_trim
  obtain ⟨second, date⟩ := normal_splitDate (h.of_sublist inEnding)
  refine ⟨⟨?_, ?_⟩, ⟨?_, ?_⟩, ?_, ?_, ?_⟩
  · rw [String.toList_ofList]
    exact Text.ne_nil_of_mem_words amountWord
  · exact ((h.of_sublist inOpening).of_sublist (Text.sublist_of_mem_words amountWord)).small_eq
  · rw [String.toList_ofList]
    exact Text.IsWord.upper (Text.ne_nil_of_mem_words currencyWord)
  · simp only [capital, String.toList_ofList, Text.upper_upper]
  · cases g.debitFirst with
    | true => exact first
    | false => exact second
  · cases g.debitFirst with
    | true => exact second
    | false => exact first
  · intro text present
    obtain ⟨chars, dated, rfl⟩ := Option.map_eq_some_iff.mp present
    obtain ⟨nonempty, plain⟩ := date chars dated
    exact ⟨by simpa using nonempty, plain⟩

theorem DrawnFrom.of_sublist {ins : Instruction} (h : ins.DrawnFrom part)
    (inside : part.Sublist text) : ins.DrawnFrom text := by
  obtain ⟨amount, ⟨word, isPart, currency⟩, debit, credit, date⟩ := h
  exact ⟨amount.trans inside, ⟨word, isPart.trans inside, currency⟩, debit.trans inside,
    credit.trans inside, fun s present => (date s present).trans inside⟩

end

theorem drawnFrom_of_scan {grammars : List Grammar} {text : String} {ins : Instruction}
    (h : scan grammars text = .ok ins) : ins.DrawnFrom (Text.lower text.toList) := by
  obtain ⟨g, -, -, found⟩ := scan_eq_ok h
  exact (drawnFrom_of_fields found).of_sublist (Text.trim_sublist _)

theorem normal_of_scan {grammars : List Grammar} {text : String} {ins : Instruction}
    (h : scan grammars text = .ok ins) : ins.Normal := by
  obtain ⟨g, -, -, found⟩ := scan_eq_ok h
  exact normal_of_fields (isSmall_normalize text) found

/-- All spellings of an instruction have one normal form. -/
theorem scan_of_respelled {grammars : List Grammar} {text other : String}
    (h : Text.Respelled text.toList other.toList) : scan grammars text = scan grammars other := by
  have same : normalize text = normalize other := Text.trim_lower_of_respelled h
  simp only [scan, same]

end Instruction
end Giro
