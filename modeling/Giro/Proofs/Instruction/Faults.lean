import Giro.Proofs.Instruction.Writing
import Giro.Proofs.Settlement.Outcome

/-!
Why an instruction cannot be taken apart. Each fault is told by the normal form of the instruction
alone: which verb begins it, which anchors it holds, where each of them occurs first and how many
words there are before the first one. The verbs exclude each other and neither phrase of a grammar
begins the next, so that no other order of the grammars and no place of the verb changes a fault.
-/

namespace Giro
namespace Grammar

/-- What is wrong with a text that the verb begins. -/
def Fails (g : Grammar) (text : List Char) : ScanFault → Prop
  | .missingKeywords => ¬ g.firstAnchor.toList <:+: text ∨ ¬ g.secondAnchor.toList <:+: text
  | .keywordOrder => ∃ beforeFirst afterFirst beforeSecond afterSecond,
      Text.FirstOccurrence g.firstAnchor.toList text beforeFirst afterFirst ∧
      Text.FirstOccurrence g.secondAnchor.toList text beforeSecond afterSecond ∧
      beforeSecond.length < beforeFirst.length
  | .malformed => ∃ beforeFirst afterFirst beforeSecond afterSecond,
      Text.FirstOccurrence g.firstAnchor.toList text beforeFirst afterFirst ∧
      Text.FirstOccurrence g.secondAnchor.toList text beforeSecond afterSecond ∧
      beforeFirst.length < beforeSecond.length ∧
      (Text.words (beforeFirst.drop g.verb.toList.length)).length < 2

/-- No text begins with two of the phrases that are next to each other. -/
structure Apart (g : Grammar) : Prop where
  verb_first : ¬ g.verb.toList <+: g.firstAnchor.toList
  first_verb : ¬ g.firstAnchor.toList <+: g.verb.toList
  first_second : ¬ g.firstAnchor.toList <+: g.secondAnchor.toList
  second_first : ¬ g.secondAnchor.toList <+: g.firstAnchor.toList

theorem apart_of_mem_standard {g : Grammar} (h : g ∈ standard) : g.Apart := by
  simp only [standard, List.mem_cons, List.not_mem_nil, or_false] at h
  obtain rfl | rfl := h <;> constructor <;> decide

/-- No other verb begins a text that this one begins. -/
theorem verb_unique {g other : Grammar} {text : List Char} (h : g ∈ standard)
    (h' : other ∈ standard) (begins : g.verb.toList <+: text)
    (begins' : other.verb.toList <+: text) : g = other := by
  obtain ⟨rest, eq⟩ := begins
  obtain ⟨rest', eq'⟩ := begins'
  have chosen := find?_standard h rest
  have chosen' := find?_standard h' rest'
  rw [eq] at chosen
  rw [eq'] at chosen'
  exact Option.some.inj (chosen.symm.trans chosen')

section
variable {g : Grammar} {text beforeFirst afterFirst beforeSecond afterSecond : List Char}

/-- In a text that the verb begins the first anchor does not stand at the beginning. -/
theorem Apart.first_later (apart : g.Apart) (begins : g.verb.toList <+: text)
    (first : Text.FirstOccurrence g.firstAnchor.toList text beforeFirst afterFirst) :
    beforeFirst ≠ [] := by
  rintro rfl
  have anchor : g.firstAnchor.toList <+: text := ⟨afterFirst, by rw [first.eq_append]; rfl⟩
  obtain nested | nested := List.prefix_or_prefix_of_prefix begins anchor
  · exact apart.verb_first nested
  · exact apart.first_verb nested

/-- The anchors do not occur at one place. -/
theorem Apart.length_ne (apart : g.Apart)
    (first : Text.FirstOccurrence g.firstAnchor.toList text beforeFirst afterFirst)
    (second : Text.FirstOccurrence g.secondAnchor.toList text beforeSecond afterSecond) :
    beforeFirst.length ≠ beforeSecond.length := by
  intro same
  have eq := first.eq_append.symm.trans second.eq_append
  rw [List.append_assoc, List.append_assoc] at eq
  have rest := (List.append_inj eq same).2
  obtain nested | nested := List.prefix_or_prefix_of_prefix (List.prefix_append _ _)
    (⟨afterSecond, rest.symm⟩ : g.secondAnchor.toList <+: g.firstAnchor.toList ++ afterFirst)
  · exact apart.first_second nested
  · exact apart.second_first nested

theorem fields_of_absent
    (absent : ¬ g.firstAnchor.toList <:+: text ∨ ¬ g.secondAnchor.toList <:+: text) :
    g.fields text = .error .missingKeywords := by
  rw [← Text.cut?_eq_none_iff, ← Text.cut?_eq_none_iff] at absent
  obtain none | none := absent
  · simp only [fields, none]
  · simp only [fields, none]
    cases Text.cut? g.firstAnchor.toList text <;> rfl

theorem fields_of_reversed
    (first : Text.FirstOccurrence g.firstAnchor.toList text beforeFirst afterFirst)
    (second : Text.FirstOccurrence g.secondAnchor.toList text beforeSecond afterSecond)
    (reversed : beforeSecond.length < beforeFirst.length) :
    g.fields text = .error .keywordOrder := by
  simp only [fields, Text.cut?_eq_some_iff.mpr first, Text.cut?_eq_some_iff.mpr second,
    Nat.le_of_lt reversed, decide_true, Bool.or_true, if_true]

/-- Where the anchors stand in their order after the beginning, only the words before the first one
can be wrong. -/
theorem fields_of_ordered
    (first : Text.FirstOccurrence g.firstAnchor.toList text beforeFirst afterFirst)
    (second : Text.FirstOccurrence g.secondAnchor.toList text beforeSecond afterSecond)
    (later : beforeFirst ≠ []) (ordered : beforeFirst.length < beforeSecond.length) :
    ((Text.words (beforeFirst.drop g.verb.toList.length)).length < 2 →
      g.fields text = .error .malformed) ∧
    (2 ≤ (Text.words (beforeFirst.drop g.verb.toList.length)).length →
      ∃ ins, g.fields text = .ok ins) := by
  simp only [fields, Text.cut?_eq_some_iff.mpr first, Text.cut?_eq_some_iff.mpr second,
    List.isEmpty_eq_false_iff.mpr later, Nat.not_le.mpr ordered, decide_false, Bool.or_self,
    Bool.false_eq_true, if_false, String.length_toList]
  rcases Text.words (beforeFirst.drop g.verb.length) with _ | ⟨_, _ | ⟨_, _⟩⟩
  · exact ⟨fun _ => rfl, fun enough => absurd enough (by simp)⟩
  · exact ⟨fun _ => rfl, fun enough => absurd enough (by simp)⟩
  · exact ⟨fun short => absurd short (by simp), fun _ => ⟨_, rfl⟩⟩

theorem fields_of_fails (apart : g.Apart) (begins : g.verb.toList <+: text) {fault : ScanFault}
    (h : g.Fails text fault) : g.fields text = .error fault := by
  cases fault with
  | missingKeywords => exact fields_of_absent h
  | keywordOrder =>
      obtain ⟨_, _, _, _, first, second, reversed⟩ := h
      exact fields_of_reversed first second reversed
  | malformed =>
      obtain ⟨_, _, _, _, first, second, ordered, short⟩ := h
      exact (fields_of_ordered first second (apart.first_later begins first) ordered).1 short

/-- A text that the verb begins has its fields, or there is something wrong with it. -/
theorem exists_fields_or_fails (apart : g.Apart) (begins : g.verb.toList <+: text) :
    (∃ ins, g.fields text = .ok ins) ∨ ∃ fault, g.Fails text fault := by
  cases foundFirst : Text.cut? g.firstAnchor.toList text with
  | none => exact .inr ⟨.missingKeywords, .inl (Text.cut?_eq_none_iff.mp foundFirst)⟩
  | some around =>
  cases foundSecond : Text.cut? g.secondAnchor.toList text with
  | none => exact .inr ⟨.missingKeywords, .inr (Text.cut?_eq_none_iff.mp foundSecond)⟩
  | some around' =>
  have first := Text.firstOccurrence_of_cut? foundFirst
  have second := Text.firstOccurrence_of_cut? foundSecond
  rcases Nat.lt_or_gt_of_ne (apart.length_ne first second) with ordered | reversed
  · have cases := fields_of_ordered first second (apart.first_later begins first) ordered
    rcases Nat.lt_or_ge (Text.words (around.1.drop g.verb.toList.length)).length 2 with
      short | enough
    · exact .inr ⟨.malformed, _, _, _, _, first, second, ordered, short⟩
    · exact .inl (cases.2 enough)
  · exact .inr ⟨.keywordOrder, _, _, _, _, first, second, reversed⟩

theorem fields_eq_error_iff (apart : g.Apart) (begins : g.verb.toList <+: text)
    {fault : ScanFault} : g.fields text = .error fault ↔ g.Fails text fault := by
  refine ⟨fun failed => ?_, fields_of_fails apart begins⟩
  obtain ⟨ins, read⟩ | ⟨other, fails⟩ := exists_fields_or_fails apart begins
  · rw [read] at failed
    contradiction
  · rw [fields_of_fails apart begins fails, Except.error.injEq] at failed
    exact failed ▸ fails

end
end Grammar

/-- What a find gives does not depend on the order of a list in which at most one item can be
found. -/
theorem find?_eq_of_perm {α : Type} {p : α → Bool} {items others : List α}
    (perm : items.Perm others) (unique : ∀ a ∈ items, ∀ b ∈ items, p a → p b → a = b) :
    items.find? p = others.find? p := by
  cases found : items.find? p with
  | none =>
      rw [List.find?_eq_none] at found
      exact (List.find?_eq_none.mpr fun a member => found a (perm.mem_iff.mpr member)).symm
  | some a =>
      have member := List.mem_of_find?_eq_some found
      cases found' : others.find? p with
      | none =>
          rw [List.find?_eq_none] at found'
          exact absurd (List.find?_some found) (found' a (perm.mem_iff.mp member))
      | some b =>
          have member' := perm.mem_iff.mpr (List.mem_of_find?_eq_some found')
          rw [unique a member b member' (List.find?_some found) (List.find?_some found')]

namespace Instruction

/-- What is wrong with a normal text: no verb begins it, or one does whose grammar it fails. -/
def Unreadable (text : List Char) (fault : ScanFault) : Prop :=
  (fault = .malformed ∧ ∀ g ∈ Grammar.standard, ¬ g.verb.toList <+: text) ∨
    ∃ g ∈ Grammar.standard, g.verb.toList <+: text ∧ g.Fails text fault

theorem scan_of_begins {g : Grammar} {text : String} (standard : g ∈ Grammar.standard)
    (begins : g.verb.toList <+: normalize text) :
    scan Grammar.standard text = g.fields (normalize text) := by
  obtain ⟨rest, eq⟩ := begins
  simp only [scan, ← eq, Grammar.find?_standard standard rest]

theorem scan_of_no_verb {text : String}
    (none : ∀ g ∈ Grammar.standard, ¬ g.verb.toList <+: normalize text) :
    scan Grammar.standard text = .error .malformed := by
  have unfound : (Grammar.standard.find? fun g => g.verb.toList.isPrefixOf (normalize text)) =
      Option.none := by
    simpa [List.find?_eq_none] using none
  simp only [scan, unfound]

theorem scan_eq_error_iff {text : String} {fault : ScanFault} :
    scan Grammar.standard text = .error fault ↔ Unreadable (normalize text) fault := by
  by_cases begun : ∃ g ∈ Grammar.standard, g.verb.toList <+: normalize text
  · obtain ⟨g, standard, begins⟩ := begun
    rw [scan_of_begins standard begins,
      Grammar.fields_eq_error_iff (Grammar.apart_of_mem_standard standard) begins]
    constructor
    · intro fails
      exact .inr ⟨g, standard, begins, fails⟩
    · rintro (⟨-, none⟩ | ⟨other, standard', begins', fails⟩)
      · exact absurd begins (none g standard)
      · rwa [Grammar.verb_unique standard standard' begins begins']
  · have none : ∀ g ∈ Grammar.standard, ¬ g.verb.toList <+: normalize text :=
      fun g standard begins => begun ⟨g, standard, begins⟩
    rw [scan_of_no_verb none, Except.error.injEq]
    constructor
    · rintro rfl
      exact .inl ⟨rfl, none⟩
    · rintro (⟨rfl, -⟩ | ⟨g, standard, begins, -⟩)
      · rfl
      · exact absurd begins (none g standard)

theorem scan_of_perm {grammars : List Grammar} (perm : grammars.Perm Grammar.standard)
    (text : String) : scan grammars text = scan Grammar.standard text := by
  have chosen := find?_eq_of_perm perm.symm
    (p := fun g => g.verb.toList.isPrefixOf (normalize text))
    fun g standard other standard' begins begins' => Grammar.verb_unique standard standard'
      (List.isPrefixOf_iff_prefix.mp begins) (List.isPrefixOf_iff_prefix.mp begins')
  simp only [scan, chosen]

/-- An instruction that is not taken apart has the one fault that its small form without the blanks
around it has, whatever the order of the grammars, and no field of it is told. The first anchor
always stands after the verb, so the place of the verb has no part in this. -/
theorem scan_faults (text : String) :
    (∀ fault, scan Grammar.standard text = .error fault ↔
      Unreadable (Text.trim (Text.lower text.toList)) fault) ∧
    (∀ fault other, Unreadable (Text.trim (Text.lower text.toList)) fault →
      Unreadable (Text.trim (Text.lower text.toList)) other → fault = other) ∧
    ((∃ ins, scan Grammar.standard text = .ok ins) ↔
      ∀ fault, ¬ Unreadable (Text.trim (Text.lower text.toList)) fault) ∧
    (∀ g ∈ Grammar.standard, g.verb.toList <+: Text.trim (Text.lower text.toList) →
      ∀ beforeVerb afterVerb beforeFirst afterFirst,
        Text.FirstOccurrence g.verb.toList (Text.trim (Text.lower text.toList))
          beforeVerb afterVerb →
        Text.FirstOccurrence g.firstAnchor.toList (Text.trim (Text.lower text.toList))
          beforeFirst afterFirst →
        beforeVerb.length < beforeFirst.length) ∧
    (∀ grammars, grammars.Perm Grammar.standard →
      scan grammars text = scan Grammar.standard text) ∧
    ∀ fault, scan Grammar.standard text = .error fault → ∀ (terms : Terms) accounts,
      ∃ receipt, terms.outcome ⟨accounts, text⟩ = .ok receipt ∧ receipt.statusCode = fault.code ∧
        receipt.form = none ∧ receipt.amount = none ∧ receipt.currency = none ∧
        receipt.debitAccount = none ∧ receipt.creditAccount = none ∧ receipt.executeBy = none ∧
        receipt.accounts = [] := by
  rw [← normalize]
  refine ⟨fun fault => scan_eq_error_iff, ?exclusive, ?reads, ?verb, fun grammars => ?order, ?told⟩
  case exclusive =>
    intro fault other wrong wrong'
    rw [← scan_eq_error_iff] at wrong wrong'
    exact Except.error.inj (wrong.symm.trans wrong')
  case reads =>
    simp only [← scan_eq_error_iff]
    cases scan Grammar.standard text <;> simp
  case verb =>
    intro g standard begins beforeVerb afterVerb beforeFirst afterFirst verb first
    obtain ⟨rest, eq⟩ := begins
    have atStart := verb.length_le [] rest eq.symm
    have later := List.length_pos_iff.mpr
      ((Grammar.apart_of_mem_standard standard).first_later ⟨rest, eq⟩ first)
    rw [List.length_nil] at atStart
    omega
  case order => exact fun perm => scan_of_perm perm text
  case told =>
    intro fault failed terms accounts
    exact ⟨.unread fault, Terms.outcomeIn_of_fault terms ⟨accounts, text⟩ failed, rfl, rfl, rfl, rfl,
      rfl, rfl, rfl, rfl⟩

/-- In small letters the first anchor overlaps the verb, so that there are no words between the two.
Capital letters and a blank in front hide the verb, though not from the scan, which misses the second
anchor. -/
theorem scan_faults_of_overlap :
    scan Grammar.standard "CREDITO ACCOUNT b for debit from account a" = .error .malformed ∧
    scan [.credit, .debit] "CREDITO ACCOUNT b for debit from account a" = .error .malformed ∧
    Text.trim (Text.lower "CREDITO ACCOUNT b for debit from account a".toList) =
      "credito account b for debit from account a".toList ∧
    Unreadable "credito account b for debit from account a".toList .malformed ∧
    ¬ Unreadable "credito account b for debit from account a".toList .keywordOrder ∧
    Unreadable "\tDEBIT 5 USD from account a".toList .malformed ∧
    Text.trim (Text.lower "\tDEBIT 5 USD from account a".toList) =
      "debit 5 usd from account a".toList ∧
    Unreadable "debit 5 usd from account a".toList .missingKeywords ∧
    ¬ Unreadable "debit 5 usd from account a".toList .malformed := by
  obtain ⟨fault_iff, exclusive, -, -, order, -⟩ :=
    scan_faults "CREDITO ACCOUNT b for debit from account a"
  obtain ⟨fault_iff', exclusive', -⟩ := scan_faults "\tDEBIT 5 USD from account a"
  have small : Text.trim (Text.lower "CREDITO ACCOUNT b for debit from account a".toList) =
      "credito account b for debit from account a".toList := by
    decide +kernel
  have trimmed : Text.trim (Text.lower "\tDEBIT 5 USD from account a".toList) =
      "debit 5 usd from account a".toList := by
    decide +kernel
  have failed : scan Grammar.standard "CREDITO ACCOUNT b for debit from account a" =
      .error .malformed := by
    decide +kernel
  have cut : scan Grammar.standard "\tDEBIT 5 USD from account a" = .error .missingKeywords := by
    decide +kernel
  have hidden : ∀ g ∈ Grammar.standard,
      ¬ g.verb.toList <+: "\tDEBIT 5 USD from account a".toList := by
    decide
  have wrong := (fault_iff .malformed).mp failed
  have absent := (fault_iff' .missingKeywords).mp cut
  rw [small] at wrong exclusive
  rw [trimmed] at absent exclusive'
  refine ⟨failed, ?_, small, wrong, fun other => ?_, .inl ⟨rfl, hidden⟩, trimmed, absent,
    fun other => ?_⟩
  · rw [order _ (.swap _ _ _), failed]
  · exact absurd (exclusive _ _ wrong other) (by decide)
  · exact absurd (exclusive' _ _ absent other) (by decide)

end Instruction
end Giro
