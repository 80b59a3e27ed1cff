import Mathlib.Data.List.Infix
import Giro.Instruction.Scan
import Giro.Proofs.Text.Case
import Giro.Proofs.Text.Occurrence
import Giro.Proofs.Text.Trim

/-!
The pieces of an instruction. The normal form of an instruction that is taken apart is one
concatenation: the verb and the two anchors of a grammar with a piece of text after each, and
perhaps the date anchor with a last piece. Every field is read off one piece, so no character
counts for two fields, and every phrase stands where it is found first. The other way round, such
a concatenation is always taken apart into its pieces. In any grammar a date anchor after the second
anchor gives a date.
-/

namespace Giro

/-- No first occurrence of the second anchor begins inside the first one: the character that the
second one begins with stands in the first one at most at its head. -/
def Grammar.Separated (g : Grammar) : Prop :=
  ∃ c rest, g.secondAnchor.toList = c :: rest ∧ c ∉ g.firstAnchor.toList.tail

theorem Grammar.separated_of_mem_standard {g : Grammar} (h : g ∈ Grammar.standard) :
    g.Separated := by
  simp only [Grammar.standard, List.mem_cons, List.not_mem_nil, or_false] at h
  obtain rfl | rfl := h
  · exact ⟨'f', "or credit to account".toList, by decide, by decide⟩
  · exact ⟨'f', "or debit from account".toList, by decide, by decide⟩

/-- Fields are found only around two first occurrences, the second one begun later, with an amount
and a currency between the verb and the first. -/
theorem Grammar.fields_eq_ok {g : Grammar} {text : List Char} {ins : Instruction}
    (h : g.fields text = .ok ins) :
    ∃ beforeFirst afterFirst beforeSecond tail amount currency rest,
      Text.cut? g.firstAnchor.toList text = some (beforeFirst, afterFirst) ∧
      Text.cut? g.secondAnchor.toList text = some (beforeSecond, tail) ∧
      beforeFirst.length < beforeSecond.length ∧
      Text.words (beforeFirst.drop g.verb.length) = amount :: currency :: rest ∧
      ins =
        let first := Text.trim (beforeSecond.drop (beforeFirst.length + g.firstAnchor.length))
        let (second, date) := Instruction.splitDate tail
        { form := g.form
          amount := .ofList amount
          currency := .ofList (Text.upper currency)
          debitAccount := .ofList (if g.debitFirst then first else second)
          creditAccount := .ofList (if g.debitFirst then second else first)
          executeBy := date.map String.ofList } := by
  simp only [Grammar.fields] at h
  split at h
  · next beforeFirst afterFirst beforeSecond tail hfirst hsecond =>
    split at h
    · simp at h
    · next order =>
      split at h
      · next amount currency rest hwords =>
        have later : beforeFirst.length < beforeSecond.length := by
          simp only [Bool.or_eq_true, decide_eq_true_eq, not_or] at order
          omega
        exact ⟨beforeFirst, afterFirst, beforeSecond, tail, amount, currency, rest, hfirst,
          hsecond, later, hwords, (Except.ok.inj h).symm⟩
      · simp at h
  · simp at h

namespace Instruction

theorem scan_eq_ok {grammars : List Grammar} {text : String} {ins : Instruction}
    (h : scan grammars text = .ok ins) :
    ∃ g ∈ grammars, g.verb.toList <+: normalize text ∧ g.fields (normalize text) = .ok ins := by
  simp only [scan] at h
  split at h
  · simp at h
  · next g hg =>
    have begins : g.verb.toList <+: normalize text :=
      List.isPrefixOf_iff_prefix.mp (by simpa using List.find?_some hg)
    exact ⟨g, List.mem_of_find?_eq_some hg, begins, h⟩

theorem capital_currency_of_scan {grammars : List Grammar} {text : String} {ins : Instruction}
    (h : scan grammars text = .ok ins) : capital ins.currency = ins.currency := by
  obtain ⟨g, -, -, found⟩ := scan_eq_ok h
  obtain ⟨_, _, _, _, _, currency, _, _, _, _, _, rfl⟩ := Grammar.fields_eq_ok found
  simp only [capital, String.toList_ofList, Text.upper_upper]

/-- A text after the second anchor: the account and, after the date anchor, the date. -/
def dated (account : List Char) : Option (List Char) → List Char
  | none => account
  | some date => account ++ Grammar.dateAnchor.toList ++ date

/-- The date anchor stands where it occurs first, and without a date it does not occur. -/
def DateLeftmost (account : List Char) : Option (List Char) → Prop
  | none => ¬ Grammar.dateAnchor.toList <:+: account
  | some date => Text.FirstOccurrence Grammar.dateAnchor.toList (dated account (some date))
      account date

/-- What stands around the phrases of a grammar. -/
structure Pieces where
  grammar : Grammar
  terms : List Char
  first : List Char
  second : List Char
  date : Option (List Char)

namespace Pieces

def head (p : Pieces) : List Char :=
  p.grammar.verb.toList ++ p.terms

def tail (p : Pieces) : List Char :=
  dated p.second p.date

/-- The text that the pieces and the phrases between them make up. -/
def text (p : Pieces) : List Char :=
  p.head ++ p.grammar.firstAnchor.toList ++ p.first ++ p.grammar.secondAnchor.toList ++ p.tail

/-- The anchors stand where they occur first in the text, and the date anchor where it occurs
first after the second of them. -/
structure Leftmost (p : Pieces) : Prop where
  first : Text.FirstOccurrence p.grammar.firstAnchor.toList p.text p.head
    (p.first ++ p.grammar.secondAnchor.toList ++ p.tail)
  second : Text.FirstOccurrence p.grammar.secondAnchor.toList p.text
    (p.head ++ p.grammar.firstAnchor.toList ++ p.first) p.tail
  date : DateLeftmost p.second p.date

/-- The fields that are read off the pieces. -/
structure Spells (p : Pieces) (ins : Instruction) : Prop where
  form : ins.form = p.grammar.form
  terms : ∃ amount currency rest, Text.words p.terms = amount :: currency :: rest ∧
    ins.amount = .ofList amount ∧ ins.currency = .ofList (Text.upper currency)
  first : (if p.grammar.debitFirst then ins.debitAccount else ins.creditAccount) =
    .ofList (Text.trim p.first)
  second : (if p.grammar.debitFirst then ins.creditAccount else ins.debitAccount) =
    .ofList (Text.trim p.second)
  executeBy : ins.executeBy = p.date.map fun date => .ofList (Text.trim date)

end Pieces

/-- In a trimmed text what follows a date anchor is never blank. -/
theorem trim_ne_nil_of_dateAnchor {whole front account date : List Char}
    (trimmed : Text.trim whole = front ++ (account ++ Grammar.dateAnchor.toList ++ date)) :
    Text.trim date ≠ [] := by
  have eq : Text.trim whole = (front ++ account ++ " on".toList) ++ (' ' :: date) := by
    rw [trimmed]
    simp [Grammar.dateAnchor]
  have nonblank := Text.trim_ne_nil_of_trim_eq_append eq (by simp)
  rwa [Text.trim_space_cons] at nonblank

/-- A date anchor in a trimmed text always gives a date. -/
theorem splitDate_of_cut? {whole front tail account date : List Char}
    (trimmed : Text.trim whole = front ++ tail)
    (found : Text.cut? Grammar.dateAnchor.toList tail = some (account, date)) :
    splitDate tail = (Text.trim account, some (Text.trim date)) := by
  rw [Text.eq_append_of_cut? found] at trimmed
  have nonempty : (Text.trim date).isEmpty = false :=
    List.isEmpty_eq_false_iff.mpr (trim_ne_nil_of_dateAnchor trimmed)
  simp [splitDate, found, nonempty]

theorem exists_dated {whole front tail : List Char} (trimmed : Text.trim whole = front ++ tail) :
    ∃ account date, dated account date = tail ∧ DateLeftmost account date ∧
      splitDate tail = (Text.trim account, date.map Text.trim) := by
  cases found : Text.cut? Grammar.dateAnchor.toList tail with
  | none =>
      refine ⟨tail, none, rfl, Text.cut?_eq_none_iff.mp found, ?_⟩
      simp [splitDate, found]
  | some pieces =>
      obtain ⟨account, date⟩ := pieces
      have eq := Text.eq_append_of_cut? found
      refine ⟨account, some date, eq.symm, ?_, splitDate_of_cut? trimmed found⟩
      simpa only [DateLeftmost, dated, ← eq] using Text.firstOccurrence_of_cut? found

/-- The fields found in a trimmed text are those of its pieces, when the anchors are separated. -/
theorem exists_pieces_of_fields {g : Grammar} {whole : List Char} {ins : Instruction}
    (separated : g.Separated) (begins : g.verb.toList <+: Text.trim whole)
    (h : g.fields (Text.trim whole) = .ok ins) :
    ∃ p : Pieces, p.grammar = g ∧ p.text = Text.trim whole ∧ p.Leftmost ∧ p.Spells ins := by
  obtain ⟨beforeFirst, afterFirst, beforeSecond, tail, amount, currency, rest', hfirst, hsecond,
    later, hwords, rfl⟩ := Grammar.fields_eq_ok h
  have atFirst := Text.firstOccurrence_of_cut? hfirst
  have atSecond := Text.firstOccurrence_of_cut? hsecond
  -- Two words stand between the verb and the first anchor, so the anchor begins after the verb.
  obtain ⟨terms, rfl⟩ : ∃ terms, beforeFirst = g.verb.toList ++ terms := by
    have longer : g.verb.length < beforeFirst.length := by
      by_contra short
      rw [List.drop_of_length_le (by omega)] at hwords
      simp at hwords
    obtain ⟨terms, eq⟩ := List.prefix_of_prefix_length_le begins atFirst.before_prefix
      (by rw [String.length_toList]; omega)
    exact ⟨terms, eq.symm⟩
  -- The second anchor does not begin inside the first.
  obtain ⟨first, rfl⟩ : ∃ first,
      beforeSecond = g.verb.toList ++ terms ++ g.firstAnchor.toList ++ first := by
    obtain ⟨c, rest, head, absent⟩ := separated
    have eq := atFirst.eq_append.symm.trans atSecond.eq_append
    have after := Text.length_add_le_of_head_not_mem (head ▸ eq) later absent
    obtain ⟨first, eq⟩ := List.prefix_of_prefix_length_le
      ⟨afterFirst, atFirst.eq_append.symm⟩ atSecond.before_prefix after
    exact ⟨first, eq.symm⟩
  obtain ⟨second, date, rfl, leftmost, hsplit⟩ := exists_dated atSecond.eq_append
  have eq : Text.trim whole = Pieces.text ⟨g, terms, first, second, date⟩ := atSecond.eq_append
  have rest : afterFirst = first ++ g.secondAnchor.toList ++ dated second date := by
    have eq := atFirst.eq_append.symm.trans atSecond.eq_append
    simpa using eq
  refine ⟨⟨g, terms, first, second, date⟩, rfl, eq.symm, ⟨?_, ?_, leftmost⟩, ?_⟩
  · rw [← eq]
    exact rest ▸ atFirst
  · rw [← eq]
    exact atSecond
  · have between : (g.verb.toList ++ terms ++ g.firstAnchor.toList ++ first).drop
        ((g.verb.toList ++ terms).length + g.firstAnchor.length) = first := by
      rw [← String.length_toList, ← List.length_append]
      exact List.drop_left
    have middle : (g.verb.toList ++ terms).drop g.verb.length = terms := by
      rw [← String.length_toList]
      exact List.drop_left
    rw [middle] at hwords
    simp only [between, hsplit]
    refine ⟨rfl, ⟨amount, currency, rest', hwords, rfl, rfl⟩, ?_, ?_, ?_⟩
    · cases g.debitFirst <;> rfl
    · cases g.debitFirst <;> rfl
    · simp [Function.comp_def]

theorem splitDate_dated {account : List Char} {date : Option (List Char)}
    (leftmost : DateLeftmost account date) (nonblank : ∀ text ∈ date, Text.trim text ≠ []) :
    splitDate (dated account date) = (Text.trim account, date.map Text.trim) := by
  cases date with
  | none =>
      have absent : Text.cut? Grammar.dateAnchor.toList account = none :=
        Text.cut?_eq_none_iff.mpr leftmost
      simp [splitDate, dated, absent]
  | some text =>
      have found := Text.cut?_eq_some_iff.mpr leftmost
      have nonempty : (Text.trim text).isEmpty = false := by
        simpa using nonblank text rfl
      simp [splitDate, found, nonempty]

/-- The fields found in a text are what its pieces spell. -/
theorem Pieces.fields_text {p : Pieces} {ins : Instruction} (leftmost : p.Leftmost)
    (anchor : p.grammar.firstAnchor.toList ≠ [])
    (nonblank : ∀ text ∈ p.date, Text.trim text ≠ []) (spells : p.Spells ins) :
    p.grammar.fields p.text = .ok ins := by
  obtain ⟨amount, currency, rest, words, -, -⟩ := spells.terms
  have afterVerb : p.head.drop p.grammar.verb.length = p.terms := by
    rw [head, ← String.length_toList]
    exact List.drop_left
  have between : (p.head ++ p.grammar.firstAnchor.toList ++ p.first).drop
      (p.head.length + p.grammar.firstAnchor.length) = p.first := by
    rw [← String.length_toList, ← List.length_append]
    exact List.drop_left
  have nonempty : p.head.isEmpty = false := by
    rw [List.isEmpty_eq_false_iff]
    intro nothing
    rw [← afterVerb, nothing] at words
    simp at words
  have later : ¬ (p.head ++ p.grammar.firstAnchor.toList ++ p.first).length ≤ p.head.length := by
    have positive := List.length_pos_iff.mpr anchor
    simp only [List.length_append]
    omega
  have afterAnchors : splitDate p.tail = _ := splitDate_dated leftmost.date nonblank
  simp only [Grammar.fields, Text.cut?_eq_some_iff.mpr leftmost.first,
    Text.cut?_eq_some_iff.mpr leftmost.second, nonempty, later, decide_false, Bool.or_self,
    Bool.false_eq_true, if_false, afterVerb, words, between, afterAnchors]
  obtain ⟨form, ⟨_, _, _, words', amount_eq, currency_eq⟩, first, second, executeBy⟩ := spells
  cases ins
  cases debitFirst : p.grammar.debitFirst <;> simp_all [Function.comp_def]

/-- An instruction that is taken apart is the concatenation of its pieces, and its fields are read
off them. -/
theorem scan_exists_pieces {text : String} {ins : Instruction}
    (h : scan Grammar.standard text = .ok ins) :
    ∃ p : Pieces, p.grammar ∈ Grammar.standard ∧ p.text = normalize text ∧ p.Leftmost ∧
      p.Spells ins := by
  obtain ⟨g, member, begins, found⟩ := scan_eq_ok h
  obtain ⟨p, rfl, pieces⟩ := exists_pieces_of_fields
    (Grammar.separated_of_mem_standard member) begins found
  exact ⟨p, member, pieces⟩

/-- A date anchor between the account anchors stays in the account, and a second one in the date. -/
theorem scan_exists_pieces_of_three_date_anchors :
    scan Grammar.standard
        " DEBIT 5 usd now from account a on b FOR CREDIT TO ACCOUNT c on d on e " =
      .ok ⟨.debit, "5", "USD", "a on b", "c", some "d on e"⟩ ∧
    ∃ p : Pieces, p.grammar ∈ Grammar.standard ∧
      p.text = normalize " DEBIT 5 usd now from account a on b FOR CREDIT TO ACCOUNT c on d on e " ∧
      p.Leftmost ∧ p.Spells ⟨.debit, "5", "USD", "a on b", "c", some "d on e"⟩ := by
  have scans : scan Grammar.standard
      " DEBIT 5 usd now from account a on b FOR CREDIT TO ACCOUNT c on d on e " =
      .ok ⟨.debit, "5", "USD", "a on b", "c", some "d on e"⟩ := by
    decide +kernel
  exact ⟨scans, scan_exists_pieces scans⟩

/-- In any grammar an instruction has a date exactly where a date anchor occurs after the second
anchor. What follows a date anchor there is never blank, so no date anchor goes without a date. -/
theorem scan_executeBy_eq_none_iff {grammars : List Grammar} {text : String} {ins : Instruction}
    (h : scan grammars text = .ok ins) :
    ∃ g before tail, grammars.find? (fun g => g.verb.toList.isPrefixOf (normalize text)) = some g ∧
      Text.FirstOccurrence g.secondAnchor.toList (normalize text) before tail ∧
      (ins.executeBy = none ↔ ¬ Grammar.dateAnchor.toList <:+: tail) ∧
      (∀ account date, tail = account ++ Grammar.dateAnchor.toList ++ date → Text.trim date ≠ []) ∧
      ∀ account date, Text.FirstOccurrence Grammar.dateAnchor.toList tail account date →
        ins.executeBy = some (.ofList (Text.trim date)) := by
  simp only [scan] at h
  split at h
  · contradiction
  next g chosen =>
  obtain ⟨_, _, before, tail, _, _, _, -, second, -, -, rfl⟩ := Grammar.fields_eq_ok h
  have atSecond := Text.firstOccurrence_of_cut? second
  have dated : ∀ account date, Text.FirstOccurrence Grammar.dateAnchor.toList tail account date →
      (splitDate tail).2 = some (Text.trim date) := by
    intro account date atDate
    rw [splitDate_of_cut? atSecond.eq_append (Text.cut?_eq_some_iff.mpr atDate)]
  refine ⟨g, before, tail, chosen, atSecond, ?_, ?_, ?_⟩
  · simp only [Option.map_eq_none_iff]
    cases found : Text.cut? Grammar.dateAnchor.toList tail with
    | none => simp [splitDate, found, Text.cut?_eq_none_iff.mp found]
    | some pieces =>
        obtain ⟨account, date⟩ := pieces
        have there : Grammar.dateAnchor.toList <:+: tail :=
          ⟨account, date, (Text.eq_append_of_cut? found).symm⟩
        simp [dated account date (Text.firstOccurrence_of_cut? found), there]
  · rintro account date rfl
    exact trim_ne_nil_of_dateAnchor atSecond.eq_append
  · intro account date atDate
    simp only [dated account date atDate, Option.map_some]

/-- A date anchor directly after the second anchor leaves no account, and one at the end of the
instruction, whatever blanks follow it, has no last blank any more and is part of the date. -/
theorem scan_executeBy_eq_none_iff_of_ending :
    scan [⟨.credit, "", "of", "to", true⟩] " 7 Usd OF a TO on x on \u3000\n" =
      .ok ⟨.credit, "7", "USD", "a", "", some "x on"⟩ ∧
    ∃ g before tail, [⟨.credit, "", "of", "to", true⟩].find? (fun g : Grammar =>
        g.verb.toList.isPrefixOf (normalize " 7 Usd OF a TO on x on \u3000\n")) = some g ∧
      Text.FirstOccurrence g.secondAnchor.toList
        (normalize " 7 Usd OF a TO on x on \u3000\n") before tail ∧
      (some "x on" = none ↔ ¬ Grammar.dateAnchor.toList <:+: tail) ∧
      (∀ account date, tail = account ++ Grammar.dateAnchor.toList ++ date → Text.trim date ≠ []) ∧
      ∀ account date, Text.FirstOccurrence Grammar.dateAnchor.toList tail account date →
        some "x on" = some (String.ofList (Text.trim date)) := by
  have scans : scan [⟨.credit, "", "of", "to", true⟩] " 7 Usd OF a TO on x on \u3000\n" =
      .ok ⟨.credit, "7", "USD", "a", "", some "x on"⟩ := by
    decide +kernel
  exact ⟨scans, scan_executeBy_eq_none_iff scans⟩

end Instruction
end Giro
