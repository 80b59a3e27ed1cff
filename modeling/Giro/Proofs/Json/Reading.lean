import Giro.Proofs.Json.Depth
import Giro.Proofs.Json.Syntax
import Giro.Proofs.Text.Decimal
import Giro.Proofs.Text.Surrogate

/-!
Every JSON text is read, and as the value that it is a text of. There is one lemma for each part of
the grammar: a part is taken from the front of a text whenever what follows cannot be taken for a
continuation of it. Only the length of the whole numbers is left to the limit of the reader.
-/

namespace Giro.Json

/-- No character of this kind stands at the head of the text. -/
def HeadNot (kind : Char → Bool) (text : List Char) : Prop :=
  ∀ c ∈ text.head?, kind c = false

/-- What may follow a value: nothing, a mark that ends it, or a blank. -/
def Follows (rest : List Char) : Prop :=
  ∀ c ∈ rest.head?, c ∈ [',', ']', '\x7d'] ++ gapChars

/-- What may follow a value with the blanks after it: nothing, or a mark that ends it. -/
def Ends (rest : List Char) : Prop :=
  ∀ c ∈ rest.head?, c ∈ [',', ']', '\x7d']

/-- The text begins as that of a value, with neither a blank nor a closing mark. -/
def Begins (text : List Char) : Prop :=
  ∃ c more, text = c :: more ∧ c ∉ gapChars ++ [']', '\x7d']

/-- The number of digits of a whole number. -/
def places (n : Int) : Nat :=
  (Nat.toDigits 10 n.natAbs).length

/-- No whole number in this part is too long. -/
def ReadRules.Allow (rules : ReadRules) (part : Part) : Prop :=
  ∀ n limit, .int n ∈ part.leaves → rules.digits = some limit → places n ≤ limit

theorem ReadRules.Allow.mono {rules : ReadRules} {part whole : Part} (h : rules.Allow whole)
    (inside : part.leaves ⊆ whole.leaves) : rules.Allow part :=
  fun n limit member => h n limit (inside member)

/-- None of the characters in a list is of a kind. -/
theorem eq_false_of_mem {kind : Char → Bool} {marks : List Char} (apart : marks.any kind = false)
    {c : Char} (listed : c ∈ marks) : kind c = false :=
  Bool.eq_false_iff.mpr (List.any_eq_false.mp apart c listed)

theorem Follows.headNot {rest : List Char} (h : Follows rest) {kind : Char → Bool}
    (apart : ([',', ']', '\x7d'] ++ gapChars).any kind = false) : HeadNot kind rest :=
  fun c head => eq_false_of_mem apart (h c head)

theorem not_mem_of_isDigit {c : Char} (digit : c.isDigit = true) {marks : List Char}
    (apart : marks.any Char.isDigit = false) : c ∉ marks :=
  fun listed => by simp [eq_false_of_mem apart listed] at digit

namespace Reader

section
variable {digits rest : List Char}

theorem digits_append (h : ∀ c ∈ digits, c.isDigit = true) (stop : HeadNot Char.isDigit rest) :
    Reader.digits (digits ++ rest) = (digits, rest) := by
  have others : rest.takeWhile Char.isDigit = [] ∧ rest.dropWhile Char.isDigit = rest := by
    cases rest with
    | nil => exact ⟨rfl, rfl⟩
    | cons c more =>
        have other : c.isDigit = false := stop c rfl
        simp [other]
  rw [Reader.digits, List.takeWhile_append_of_pos h, List.dropWhile_append_of_pos h, others.1,
    others.2, List.append_nil]

theorem whole_append (h : IsWhole digits) (stop : HeadNot Char.isDigit rest) :
    whole (digits ++ rest) = some (digits, rest) := by
  obtain ⟨⟨nonempty, isDigits⟩, alone⟩ := h
  obtain ⟨c, more, rfl⟩ := List.exists_cons_of_ne_nil nonempty
  by_cases zero : c = '0'
  · subst zero
    rw [alone rfl]
    rfl
  · have taken := digits_append isDigits stop
    rw [List.cons_append] at taken ⊢
    rw [whole]
    · rw [taken]
    · simpa using zero

theorem fraction_append {text : List Char} (h : SpellsFraction text digits)
    (stop : HeadNot Char.isDigit rest) (point : HeadNot (· = '.') rest) :
    fraction (text ++ rest) = (digits, rest) := by
  cases h with
  | none =>
      rw [List.nil_append, fraction]
      rintro more rfl
      exact absurd (point '.' rfl) (by decide)
  | point h =>
      obtain ⟨c, more, rfl⟩ := List.exists_cons_of_ne_nil h.1
      rw [List.cons_append, fraction, digits_append h.2 stop]

theorem sign_append {sign : List Char} (signed : sign ∈ [[], ['+'], ['-']])
    (h : IsDigits digits) (rest : List Char) :
    Reader.sign (sign ++ digits ++ rest) = (decide (sign = ['-']), digits ++ rest) := by
  obtain ⟨c, more, rfl⟩ := List.exists_cons_of_ne_nil h.1
  have digit := h.2 c List.mem_cons_self
  simp only [List.mem_cons, List.not_mem_nil, or_false] at signed
  obtain rfl | rfl | rfl := signed
  · have plus : c ≠ '+' := by
      rintro rfl
      exact absurd digit (by decide)
    have minus : c ≠ '-' := by
      rintro rfl
      exact absurd digit (by decide)
    simp [Reader.sign, plus, minus]
  · rfl
  · rfl

theorem exponent_append {text : List Char} {power : Option Int} (h : SpellsExponent text power)
    (stop : HeadNot Char.isDigit rest) (letter : HeadNot (· ∈ ['e', 'E']) rest) :
    exponent (text ++ rest) = (power, rest) := by
  cases h with
  | none =>
      cases rest with
      | nil => rfl
      | cons c more =>
          have other := letter c rfl
          simp only [List.mem_cons, List.not_mem_nil, or_false, decide_eq_false_iff_not] at other
          rw [List.nil_append, exponent, if_neg other]
  | @some c sign digits isLetter signed h =>
      simp only [List.mem_cons, List.not_mem_nil, or_false] at isLetter
      obtain ⟨d, more, rfl⟩ := List.exists_cons_of_ne_nil h.1
      rw [List.cons_append, exponent, if_pos isLetter, sign_append signed h]
      simp only [digits_append h.2 stop, decide_eq_true_eq]

/-- Digits without a zero at their head are as many as those of their value. -/
theorem places_of_isWhole (h : IsWhole digits) {n : Int}
    (value : n.natAbs = Nat.ofDigitChars 10 digits 0) : places n = digits.length := by
  obtain ⟨⟨nonempty, isDigits⟩, alone⟩ := h
  obtain ⟨c, more, rfl⟩ := List.exists_cons_of_ne_nil nonempty
  rw [places, value]
  by_cases zero : c = '0'
  · subst zero
    rw [alone rfl]
    rfl
  · rw [Text.toDigits_ofDigitChars isDigits zero]

theorem headNot_exponent_append {exponent : List Char} {power : Option Int}
    (h : SpellsExponent exponent power) {kind : Char → Bool}
    (letter : ['e', 'E'].any kind = false) (follows : HeadNot kind rest) :
    HeadNot kind (exponent ++ rest) := by
  cases h with
  | none => exact follows
  | some isLetter signed h => simpa [HeadNot] using eq_false_of_mem letter isLetter

theorem headNot_fraction_append {fraction : List Char} (h : SpellsFraction fraction digits)
    {kind : Char → Bool} (point : kind '.' = false) (follows : HeadNot kind rest) :
    HeadNot kind (fraction ++ rest) := by
  cases h with
  | none => exact follows
  | point h => simpa [HeadNot] using point

theorem number_int (rules : ReadRules) (negative : Bool) (h : IsWhole digits)
    (follows : Follows rest) (short : ∀ limit, rules.digits = some limit → digits.length ≤ limit) :
    number rules negative (digits ++ rest) =
      .ok (.int (if negative then -(Nat.ofDigitChars 10 digits 0 : Nat)
        else (Nat.ofDigitChars 10 digits 0 : Nat)), rest) := by
  have noDigit : HeadNot Char.isDigit rest := follows.headNot (by decide)
  have fits : rules.digits.any (· < digits.length) = false := by
    cases limited : rules.digits with
    | none => rfl
    | some limit => simpa using short limit limited
  have noFraction := fraction_append .none noDigit (follows.headNot (by decide))
  have noExponent := exponent_append .none noDigit (follows.headNot (by decide))
  rw [List.nil_append] at noFraction noExponent
  simp only [number, whole_append h noDigit, noFraction, noExponent, fits]
  rfl

theorem number_float (rules : ReadRules) (negative : Bool)
    {fraction digits exponent whole : List Char} {power : Option Int} (isWhole : IsWhole whole)
    (isFraction : SpellsFraction fraction digits) (isExponent : SpellsExponent exponent power)
    (either : digits ≠ [] ∨ power ≠ none) (follows : Follows rest) :
    number rules negative (whole ++ (fraction ++ exponent) ++ rest) =
      .ok (.float (Binary64.ofScientific negative
        ⟨Nat.ofDigitChars 10 (whole ++ digits) 0, power.getD 0 - digits.length⟩), rest) := by
  have noDigit : HeadNot Char.isDigit rest := follows.headNot (by decide)
  have noDigit' : HeadNot Char.isDigit (exponent ++ rest) :=
    headNot_exponent_append isExponent (by decide) noDigit
  have takesWhole := whole_append isWhole (headNot_fraction_append isFraction (by decide) noDigit')
  have takesFraction := fraction_append isFraction noDigit'
    (headNot_exponent_append isExponent (by decide) (follows.headNot (by decide)))
  have takesExponent := exponent_append isExponent noDigit (follows.headNot (by decide))
  have notWhole : (digits.isEmpty && power.isNone) = false := by
    rw [Bool.and_eq_false_iff]
    simpa [Option.isSome_iff_ne_none] using either
  rw [List.append_assoc, List.append_assoc]
  simp only [number, takesWhole, takesFraction, takesExponent, notWhole]
  rfl

end

/-! ### Strings -/

theorem codeChars?_code {digits : List Char} {c : Char}
    (h : Text.hexCode? digits = some (c.toNat, [])) (marks : Nat) (rest : List Char) :
    codeChars? marks (digits ++ rest) = some ([c], rest) := by
  have high := (Text.not_surrogate c).1
  simp only [codeChars?, Text.hexCode?_append h, Text.ofCode_toNat, high, Option.bind_eq_bind,
    Option.bind_some, Bool.false_eq_true, if_false]
  split <;> rfl

theorem codeChars?_pair {digits digits' : List Char} {high low : Nat}
    (first : Text.hexCode? digits = some (high, [])) (isHigh : Text.isHighSurrogate high = true)
    (second : Text.hexCode? digits' = some (low, [])) (isLow : Text.isLowSurrogate low = true)
    (marks : Nat) (rest : List Char) :
    codeChars? marks (digits ++ ('\\' :: 'u' :: (digits' ++ rest))) =
      some ([.ofNat (Text.pairCode high low)], rest) := by
  simp only [codeChars?, Text.hexCode?_append first, Text.hexCode?_append second,
    Text.ofCode_pairCode, isHigh, isLow, Option.bind_eq_bind, Option.bind_some, if_true]

theorem characters_char {text : List Char} {c : Char} (h : SpellsChar text c) (marks : Nat)
    (fuel : Nat) (rest : List Char) :
    characters marks (fuel + 1) (text ++ rest) =
      (characters marks fuel rest).map fun (cs, last) => (c :: cs, last) := by
  cases h with
  | itself quote backslash control =>
      have plain : ¬ (c = '\\' ∨ c.toNat < 0x20) := by
        rintro (same | low)
        · exact backslash same
        · omega
      rw [List.cons_append, List.nil_append, characters]
      · rw [if_neg plain]
      · exact fun same => absurd same quote
      · exact fun _ same => absurd same backslash
      · exact fun _ _ same => absurd same backslash
  | letter listed =>
      simp only [letters, List.mem_cons, Prod.mk.injEq, List.not_mem_nil, or_false] at listed
      obtain ⟨rfl, rfl⟩ | ⟨rfl, rfl⟩ | ⟨rfl, rfl⟩ | ⟨rfl, rfl⟩ | ⟨rfl, rfl⟩ | ⟨rfl, rfl⟩ |
        ⟨rfl, rfl⟩ | ⟨rfl, rfl⟩ := listed <;> rfl
  | code hex =>
      simp only [List.cons_append, characters, codeChars?_code hex, List.nil_append]
  | pair first isHigh second isLow =>
      have read := codeChars?_pair first isHigh second isLow marks rest
      simp only [List.cons_append, List.append_assoc, characters, read, List.nil_append]

theorem characters_append {text cs : List Char} (h : SpellsChars text cs) (marks : Nat)
    {fuel : Nat} (enough : text.length < fuel) (rest : List Char) :
    characters marks fuel (text ++ '"' :: rest) = .ok (cs, rest) := by
  induction h generalizing fuel with
  | nil =>
      obtain ⟨fuel, rfl⟩ := Nat.exists_eq_add_one_of_ne_zero (Nat.ne_of_gt enough)
      rfl
  | @cons text more c cs first others ih =>
      have taken : 0 < text.length := by cases first <;> simp
      rw [List.length_append] at enough
      obtain ⟨fuel, rfl⟩ : ∃ n, fuel = n + 1 := ⟨fuel - 1, by omega⟩
      rw [List.append_assoc, characters_char first, ih (by omega)]
      rfl

theorem string_append {text : List Char} {s : String} (h : SpellsString text s) (marks : Nat)
    (rest : List Char) :
    ∃ inside, text ++ rest = '"' :: inside ∧ string marks inside = .ok (s, rest) := by
  cases h with
  | @quoted text s inside =>
      refine ⟨text ++ '"' :: rest, by simp, ?_⟩
      have enough : text.length < (text ++ '"' :: rest).length + 1 := by
        rw [List.length_append]
        omega
      rw [string, characters_append inside marks enough]
      simp [Except.map]

/-! ### Blanks -/

theorem isSpace_iff {c : Char} : isSpace c = true ↔ c ∈ gapChars := by
  simp [isSpace, gapChars, or_assoc]

theorem skip_nil : skip [] = [] := rfl

theorem skip_gap_append {gap : List Char} (h : IsGap gap) (rest : List Char) :
    skip (gap ++ rest) = skip rest :=
  List.dropWhile_append_of_pos fun c member => isSpace_iff.mpr (h c member)

theorem skip_cons {c : Char} (h : c ∉ gapChars) (rest : List Char) :
    skip (c :: rest) = c :: rest :=
  List.dropWhile_cons_of_neg (mt isSpace_iff.mp h)

theorem skip_append_of_begins {text : List Char} (h : Begins text) (rest : List Char) :
    skip (text ++ rest) = text ++ rest := by
  obtain ⟨c, more, rfl, other⟩ := h
  exact skip_cons (fun gap => other (List.mem_append_left _ gap)) _

theorem skip_eq_of_ends {rest : List Char} (h : Ends rest) : skip rest = rest := by
  cases rest with
  | nil => rfl
  | cons c more =>
      have other : isSpace c = false := eq_false_of_mem (by decide) (h c rfl)
      exact skip_cons (fun gap => by simp [isSpace_iff.mpr gap] at other) more

theorem follows_gap_append {gap rest : List Char} (h : IsGap gap) (ends : Ends rest) :
    Follows (gap ++ rest) := by
  cases gap with
  | nil => exact fun c head => List.mem_append_left _ (ends c head)
  | cons d more =>
      rintro _ ⟨⟩
      exact List.mem_append_right _ (h d List.mem_cons_self)

/-! ### Values -/

theorem word?_null (rest : List Char) : word? ("null".toList ++ rest) = some (.null, rest) := by
  simp [word?, ← String.length_toList]

theorem word?_bool (b : Bool) (rest : List Char) :
    word? ((if b then "true" else "false").toList ++ rest) = some (.bool b, rest) := by
  cases b <;> simp [word?, ← String.length_toList]

theorem word?_cons_eq_none {c : Char} (h : c ∉ ['n', 't', 'f', 'N', 'I', '-'])
    (rest : List Char) : word? (c :: rest) = none := by
  simp only [List.mem_cons, List.not_mem_nil, or_false, not_or] at h
  simp [word?, Ne.symm h.1, Ne.symm h.2.1, Ne.symm h.2.2.1, Ne.symm h.2.2.2.1, Ne.symm h.2.2.2.2.1,
    Ne.symm h.2.2.2.2.2]

theorem word?_minus_eq_none {c : Char} (h : c ≠ 'I') (rest : List Char) :
    word? ('-' :: c :: rest) = none := by
  simp [word?, Ne.symm h]

section
variable {rules : ReadRules} {fuel opened : Nat}

theorem value_of_word? {text rest : List Char} {v : Json} (h : word? text = some (v, rest)) :
    value rules (fuel + 1) opened text = .ok (v, rest) := by
  simp only [value, h]

theorem value_quote (inside : List Char) :
    value rules (fuel + 1) opened ('"' :: inside) =
      (string rules.marks inside).map fun (s, after) => (.str s, after) := by
  simp only [value, word?_cons_eq_none (c := '"') (by decide)]

theorem value_digit {c : Char} (digit : c.isDigit = true) (rest : List Char) :
    value rules (fuel + 1) opened (c :: rest) = number rules false (c :: rest) := by
  have other : c ∉ ['n', 't', 'f', 'N', 'I', '-'] ++ ['"', '[', '\x7b'] :=
    not_mem_of_isDigit digit (by decide)
  have noWord : word? (c :: rest) = none :=
    word?_cons_eq_none (fun listed => other (List.mem_append_left _ listed)) rest
  simp only [value, noWord]
  split
  · simp_all
  · simp_all
  · simp_all
  · simp_all
  · rfl

theorem value_minus {c : Char} (digit : c.isDigit = true) (rest : List Char) :
    value rules (fuel + 1) opened ('-' :: c :: rest) = number rules true (c :: rest) := by
  have noWord : word? ('-' :: c :: rest) = none := by
    refine word?_minus_eq_none ?_ rest
    rintro rfl
    exact absurd digit (by decide)
  simp only [value, noWord]

theorem value_signed (negative : Bool) {digits : List Char} (h : IsDigits digits)
    (rest : List Char) :
    value rules (fuel + 1) opened (minusSign negative ++ (digits ++ rest)) =
      number rules negative (digits ++ rest) := by
  obtain ⟨c, more, rfl⟩ := List.exists_cons_of_ne_nil h.1
  have digit := h.2 c List.mem_cons_self
  cases negative with
  | false => exact value_digit digit _
  | true => exact value_minus digit _

section
variable (unlimited : rules.depth = none) {rest : List Char}
include unlimited

theorem value_noItems {after : List Char} (closes : skip rest = ']' :: after) :
    value rules (fuel + 1) opened ('[' :: rest) = .ok (.arr [], after) := by
  simp only [value, word?_cons_eq_none (c := '[') (by decide), unlimited, Option.any_none,
    Bool.false_eq_true, if_false, closes]

theorem value_items (begins : Begins (skip rest)) :
    value rules (fuel + 1) opened ('[' :: rest) =
      (items rules fuel (opened + 1) (skip rest)).map fun (values, after) =>
        (.arr values, after) := by
  obtain ⟨c, more, eq, other⟩ := begins
  have notClosing : c ≠ ']' := by
    rintro rfl
    exact other (by decide)
  simp only [value, word?_cons_eq_none (c := '[') (by decide), unlimited, Option.any_none,
    Bool.false_eq_true, if_false, eq]
  split
  · next same => exact absurd (List.cons.inj same).1 notClosing
  · rfl

theorem value_noMembers {after : List Char} (closes : skip rest = '\x7d' :: after) :
    value rules (fuel + 1) opened ('\x7b' :: rest) = .ok (.obj [], after) := by
  simp only [value, word?_cons_eq_none (c := '\x7b') (by decide), unlimited, Option.any_none,
    Bool.false_eq_true, if_false, closes]

theorem value_members (begins : Begins (skip rest)) :
    value rules (fuel + 1) opened ('\x7b' :: rest) =
      (members rules fuel (opened + 1) (skip rest)).map fun (pairs, after) =>
        (.obj pairs, after) := by
  obtain ⟨c, more, eq, other⟩ := begins
  have notClosing : c ≠ '\x7d' := by
    rintro rfl
    exact other (by decide)
  simp only [value, word?_cons_eq_none (c := '\x7b') (by decide), unlimited, Option.any_none,
    Bool.false_eq_true, if_false, eq]
  split
  · next same => exact absurd (List.cons.inj same).1 notClosing
  · rfl

end
end
end Reader

/-- The reader takes this part from the front of a text that does not continue it. There is enough
fuel when it is twice the length of the part. -/
def Reads (rules : ReadRules) (text : List Char) : Part → Prop
  | .value v => Begins text ∧ ∀ fuel opened rest, 2 * text.length ≤ fuel → Follows rest →
      Reader.value rules fuel opened (text ++ rest) = .ok (v, rest)
  | .slot v => ∀ fuel opened rest, 2 * text.length ≤ fuel → Ends rest →
      Begins (Reader.skip (text ++ rest)) ∧
      ∃ after, Reader.value rules fuel opened (Reader.skip (text ++ rest)) = .ok (v, after) ∧
        Reader.skip after = rest
  | .items [] => ∀ rest, Reader.skip (text ++ ']' :: rest) = ']' :: rest
  | .items (item :: more) => ∀ fuel opened rest, 2 * text.length < fuel →
      Begins (Reader.skip (text ++ ']' :: rest)) ∧
      Reader.items rules fuel opened (Reader.skip (text ++ ']' :: rest)) = .ok (item :: more, rest)
  | .name s => ∀ rest, ∃ inside after, Reader.skip (text ++ ':' :: rest) = '"' :: inside ∧
      Reader.string rules.marks inside = .ok (s, after) ∧ Reader.skip after = ':' :: rest
  | .members [] => ∀ rest, Reader.skip (text ++ '\x7d' :: rest) = '\x7d' :: rest
  | .members (member :: more) => ∀ fuel opened rest, 2 * text.length < fuel →
      Begins (Reader.skip (text ++ '\x7d' :: rest)) ∧
      Reader.members rules fuel opened (Reader.skip (text ++ '\x7d' :: rest)) =
        .ok (member :: more, rest)

theorem Begins.of_head {c : Char} (other : c ∉ gapChars ++ [']', '\x7d']) (more : List Char) :
    Begins (c :: more) :=
  ⟨c, more, rfl, other⟩

theorem Begins.append {text : List Char} (h : Begins text) (rest : List Char) :
    Begins (text ++ rest) := by
  obtain ⟨c, more, rfl, other⟩ := h
  exact ⟨c, more ++ rest, rfl, other⟩

theorem begins_of_isDigits (negative : Bool) {digits : List Char} (h : IsDigits digits)
    (rest : List Char) : Begins (minusSign negative ++ (digits ++ rest)) := by
  cases negative with
  | true => exact .of_head (by decide) _
  | false =>
      obtain ⟨c, more, rfl⟩ := List.exists_cons_of_ne_nil h.1
      refine .of_head (fun listed => ?_) _
      exact not_mem_of_isDigit (h.2 c List.mem_cons_self) (by decide) listed

theorem Begins.length_pos {text : List Char} (h : Begins text) : 0 < text.length := by
  obtain ⟨c, more, rfl, -⟩ := h
  exact Nat.succ_pos more.length

section
variable {rules : ReadRules} {text : List Char}

/-- No value is empty, so there is fuel for a first step. -/
theorem reads_value {v : Json} (begins : Begins text)
    (step : ∀ fuel opened rest, 2 * text.length ≤ fuel + 1 → Follows rest →
      Reader.value rules (fuel + 1) opened (text ++ rest) = .ok (v, rest)) :
    Reads rules text (.value v) := by
  refine ⟨begins, fun fuel opened rest enough follows => ?_⟩
  have positive := begins.length_pos
  obtain ⟨fuel, rfl⟩ : ∃ n, fuel = n + 1 := ⟨fuel - 1, by omega⟩
  exact step fuel opened rest enough follows

theorem reads_null : Reads rules "null".toList (.value .null) :=
  reads_value (.of_head (by decide) _) fun _ _ rest _ _ =>
    Reader.value_of_word? (Reader.word?_null rest)

theorem reads_bool (b : Bool) :
    Reads rules (if b then "true" else "false").toList (.value (.bool b)) := by
  refine reads_value ?_ fun _ _ rest _ _ => Reader.value_of_word? (Reader.word?_bool b rest)
  cases b <;> exact .of_head (by decide) _

theorem reads_int (negative : Bool) {digits : List Char} (h : IsWhole digits)
    (short : ∀ limit, rules.digits = some limit → digits.length ≤ limit) :
    Reads rules (minusSign negative ++ digits)
      (.value (.int (if negative then -(Nat.ofDigitChars 10 digits 0 : Nat)
        else (Nat.ofDigitChars 10 digits 0 : Nat)))) := by
  refine reads_value ?_ fun fuel opened rest _ follows => ?_
  · simpa using begins_of_isDigits negative h.1 []
  · rw [List.append_assoc, Reader.value_signed negative h.1,
      Reader.number_int rules negative h follows short]

theorem reads_float (negative : Bool) {whole fraction digits exponent : List Char}
    {power : Option Int} (isWhole : IsWhole whole) (isFraction : SpellsFraction fraction digits)
    (isExponent : SpellsExponent exponent power) (either : digits ≠ [] ∨ power ≠ none) :
    Reads rules (minusSign negative ++ (whole ++ (fraction ++ exponent)))
      (.value (.float (Binary64.ofScientific negative
        ⟨Nat.ofDigitChars 10 (whole ++ digits) 0, power.getD 0 - digits.length⟩))) := by
  refine reads_value (begins_of_isDigits negative isWhole.1 _) fun fuel opened rest _ follows => ?_
  have read := Reader.number_float rules negative isWhole isFraction isExponent either follows
  rw [List.append_assoc] at read
  rw [List.append_assoc, List.append_assoc, Reader.value_signed negative isWhole.1, read]

theorem reads_str {s : String} (h : SpellsString text s) : Reads rules text (.value (.str s)) := by
  have begins : Begins text := by
    cases h
    exact .of_head (by decide) _
  refine reads_value begins fun fuel opened rest _ _ => ?_
  obtain ⟨inside, eq, read⟩ := Reader.string_append h rules.marks rest
  rw [eq, Reader.value_quote, read]
  rfl

theorem reads_name {front back : List Char} {name : String} (before : IsGap front)
    (h : SpellsString text name) (after : IsGap back) :
    Reads rules (front ++ (text ++ back)) (.name name) := by
  intro rest
  obtain ⟨inside, eq, read⟩ := Reader.string_append h rules.marks (back ++ ':' :: rest)
  refine ⟨inside, back ++ ':' :: rest, ?_, read, ?_⟩
  · rw [List.append_assoc, List.append_assoc, Reader.skip_gap_append before, eq,
      Reader.skip_cons (by decide)]
  · rw [Reader.skip_gap_append after, Reader.skip_cons (by decide)]

theorem Reads.slot {front back : List Char} {v : Json} (before : IsGap front)
    (h : Reads rules text (.value v)) (after : IsGap back) :
    Reads rules (front ++ (text ++ back)) (.slot v) := by
  obtain ⟨begins, read⟩ := h
  intro fuel opened rest enough ends
  have start : Reader.skip (front ++ (text ++ back) ++ rest) = text ++ (back ++ rest) := by
    rw [List.append_assoc, List.append_assoc, Reader.skip_gap_append before,
      Reader.skip_append_of_begins begins]
  rw [start]
  simp only [List.length_append] at enough
  refine ⟨begins.append _, back ++ rest, ?_, ?_⟩
  · exact read fuel opened _ (by omega) (Reader.follows_gap_append after ends)
  · rw [Reader.skip_gap_append after, Reader.skip_eq_of_ends ends]

theorem reads_noItems {gap : List Char} (h : IsGap gap) : Reads rules gap (.items []) := by
  intro rest
  rw [Reader.skip_gap_append h, Reader.skip_cons (by decide)]

theorem reads_noMembers {gap : List Char} (h : IsGap gap) : Reads rules gap (.members []) := by
  intro rest
  rw [Reader.skip_gap_append h, Reader.skip_cons (by decide)]

theorem Reads.lastItem {item : Json} (h : Reads rules text (.slot item)) :
    Reads rules text (.items [item]) := by
  intro fuel opened rest enough
  obtain ⟨fuel, rfl⟩ : ∃ n, fuel = n + 1 := ⟨fuel - 1, by omega⟩
  obtain ⟨begins, after, read, closes⟩ := h fuel opened (']' :: rest) (by omega) (by simp [Ends])
  refine ⟨begins, ?_⟩
  simp only [Reader.items, read, closes]

theorem Reads.item {others : List Char} {item next : Json} {more : List Json}
    (first : Reads rules text (.slot item)) (rest : Reads rules others (.items (next :: more))) :
    Reads rules (text ++ ',' :: others) (.items (item :: next :: more)) := by
  intro fuel opened last enough
  simp only [List.length_append, List.length_cons] at enough
  obtain ⟨fuel, rfl⟩ : ∃ n, fuel = n + 1 := ⟨fuel - 1, by omega⟩
  obtain ⟨begins, after, read, comma⟩ :=
    first fuel opened (',' :: (others ++ ']' :: last)) (by omega) (by simp [Ends])
  obtain ⟨-, readOthers⟩ := rest fuel opened last (by omega)
  rw [List.append_assoc, List.cons_append]
  refine ⟨begins, ?_⟩
  simp only [Reader.items, read, comma, readOthers]
  rfl

end

section
variable {rules : ReadRules} {key text : List Char} {name : String} {v : Json}

theorem Reads.lastMember (named : Reads rules key (.name name))
    (h : Reads rules text (.slot v)) :
    Reads rules (key ++ ':' :: text) (.members [(name, v)]) := by
  intro fuel opened rest enough
  simp only [List.length_append, List.length_cons] at enough
  obtain ⟨fuel, rfl⟩ : ∃ n, fuel = n + 1 := ⟨fuel - 1, by omega⟩
  obtain ⟨inside, after, quoted, readName, colon⟩ := named (text ++ '\x7d' :: rest)
  obtain ⟨-, after', read, closes⟩ := h fuel opened ('\x7d' :: rest) (by omega) (by simp [Ends])
  rw [List.append_assoc, List.cons_append, quoted]
  refine ⟨.of_head (by decide) _, ?_⟩
  simp only [Reader.members, readName, colon, read, closes]

theorem Reads.member {others : List Char} {next : String × Json} {more : List (String × Json)}
    (named : Reads rules key (.name name)) (first : Reads rules text (.slot v))
    (rest : Reads rules others (.members (next :: more))) :
    Reads rules (key ++ ':' :: (text ++ ',' :: others)) (.members ((name, v) :: next :: more)) := by
  intro fuel opened last enough
  simp only [List.length_append, List.length_cons] at enough
  obtain ⟨fuel, rfl⟩ : ∃ n, fuel = n + 1 := ⟨fuel - 1, by omega⟩
  obtain ⟨inside, after, quoted, readName, colon⟩ :=
    named (text ++ ',' :: (others ++ '\x7d' :: last))
  obtain ⟨-, after', read, comma⟩ :=
    first fuel opened (',' :: (others ++ '\x7d' :: last)) (by omega) (by simp [Ends])
  obtain ⟨-, readOthers⟩ := rest fuel opened last (by omega)
  rw [List.append_assoc, List.cons_append, List.append_assoc, List.cons_append, quoted]
  refine ⟨.of_head (by decide) _, ?_⟩
  simp only [Reader.members, readName, colon, read, comma, readOthers]
  rfl

end

section
variable {rules : ReadRules} (unlimited : rules.depth = none) {text : List Char}
include unlimited

theorem Reads.arr {items : List Json} (inside : Reads rules text (.items items)) :
    Reads rules ('[' :: (text ++ [']'])) (.value (.arr items)) := by
  refine reads_value (.of_head (by decide) _) fun fuel opened rest enough _ => ?_
  have eq : '[' :: (text ++ [']']) ++ rest = '[' :: (text ++ ']' :: rest) := by simp
  simp only [List.length_append, List.length_cons, List.length_nil] at enough
  rw [eq]
  cases items with
  | nil => exact Reader.value_noItems unlimited (inside rest)
  | cons item more =>
      obtain ⟨begins, read⟩ := inside fuel (opened + 1) rest (by omega)
      rw [Reader.value_items unlimited begins, read]
      rfl

theorem Reads.obj {members : List (String × Json)} (inside : Reads rules text (.members members)) :
    Reads rules ('\x7b' :: (text ++ ['\x7d'])) (.value (.obj members)) := by
  refine reads_value (.of_head (by decide) _) fun fuel opened rest enough _ => ?_
  have eq : '\x7b' :: (text ++ ['\x7d']) ++ rest = '\x7b' :: (text ++ '\x7d' :: rest) := by simp
  simp only [List.length_append, List.length_cons, List.length_nil] at enough
  rw [eq]
  cases members with
  | nil => exact Reader.value_noMembers unlimited (inside rest)
  | cons member more =>
      obtain ⟨begins, read⟩ := inside fuel (opened + 1) rest (by omega)
      rw [Reader.value_members unlimited begins, read]
      rfl

/-- Each part of a text is read, whatever it is a part of. -/
theorem reads_of_spells {part : Part} (h : Spells text part) (allowed : rules.Allow part) :
    Reads rules text part := by
  induction h with
  | null => exact reads_null
  | bool b => exact reads_bool b
  | @int negative digits h =>
      refine reads_int negative h fun limit limited => ?_
      rw [← Reader.places_of_isWhole h (n := if negative then -(Nat.ofDigitChars 10 digits 0 : Nat)
        else (Nat.ofDigitChars 10 digits 0 : Nat)) (by split <;> simp)]
      exact allowed _ limit (List.mem_singleton_self _) limited
  | float isWhole isFraction isExponent either =>
      exact reads_float _ isWhole isFraction isExponent either
  | str h => exact reads_str h
  | arr inside ih => exact .arr unlimited (ih allowed)
  | obj inside ih => exact .obj unlimited (ih allowed)
  | slot before h after ih => exact .slot before (ih allowed) after
  | noItems h => exact reads_noItems h
  | lastItem h ih => exact .lastItem (ih (allowed.mono (by simp [Part.leaves, leavesOfItems])))
  | item first others ihFirst ihOthers =>
      exact .item (ihFirst (allowed.mono (by simp [Part.leaves, leavesOfItems])))
        (ihOthers (allowed.mono (by simp [Part.leaves, leavesOfItems])))
  | name before h after => exact reads_name before h after
  | noMembers h => exact reads_noMembers h
  | lastMember named h ihName ih =>
      exact .lastMember (ihName (allowed.mono (by simp [Part.leaves])))
        (ih (allowed.mono (by simp [Part.leaves, leavesOfMembers])))
  | member named first others ihName ihFirst ihOthers =>
      exact .member (ihName (allowed.mono (by simp [Part.leaves])))
        (ihFirst (allowed.mono (by simp [Part.leaves, leavesOfMembers])))
        (ihOthers (allowed.mono (by simp [Part.leaves, leavesOfMembers])))

end

/-- The text is read as a value that takes up all of its characters. -/
theorem read_of_value {rules : ReadRules} {document : String} {text rest : List Char} {v : Json}
    (chars : document.toList = text)
    (taken : Reader.value rules (2 * text.length + 2) 0 (Reader.skip text) = .ok (v, rest))
    (nothing : Reader.skip rest = []) : read rules document = .ok v := by
  subst chars
  simp only [read, taken, nothing]
  rfl

/-- A JSON text is read as its value, unless that is too deep or has too long a number. -/
theorem read_of_isText {rules : ReadRules} {document : String} {value : Json}
    (h : IsText document value) (allowed : rules.Allow (.value value))
    (shallow : ∀ limit, rules.depth = some limit → value.depth ≤ limit) :
    read rules document = .ok value := by
  have unlimited : read { rules with depth := none } document = .ok value := by
    have reads : Reads { rules with depth := none } document.toList (.slot value) :=
      reads_of_spells rfl h allowed
    obtain ⟨-, after, taken, nothing⟩ :=
      reads (2 * document.toList.length + 2) 0 [] (by omega) (by simp [Ends])
    rw [List.append_nil] at taken
    exact read_of_value rfl taken nothing
  obtain ⟨digits, depth, marks⟩ := rules
  cases depth with
  | none => exact unlimited
  | some limit =>
      have limited := read_limited rfl limit unlimited
      rwa [if_pos (shallow limit rfl)] at limited

end Giro.Json
