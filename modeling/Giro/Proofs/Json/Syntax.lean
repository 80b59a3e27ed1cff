import Giro.Binary64.Decimal
import Giro.Json.Basic
import Giro.Text.Hex
import Giro.Text.Surrogate

/-!
The grammar of JSON texts, as a relation between texts and the values that they are texts of. It is
the strict grammar: there are no words for infinities and for what is not a number, and a surrogate
is written only as half of a pair. Nothing here says how a text is read or printed.
-/

namespace Giro.Json

/-- The blanks that may stand around a value and around the name of a member. -/
def gapChars : List Char := [' ', '\t', '\n', '\r']

def IsGap (text : List Char) : Prop :=
  ∀ c ∈ text, c ∈ gapChars

def IsDigits (text : List Char) : Prop :=
  text ≠ [] ∧ ∀ c ∈ text, c.isDigit = true

/-- The digits of the whole part of a number: a zero at their head stands alone. -/
def IsWhole (text : List Char) : Prop :=
  IsDigits text ∧ (text.head? = some '0' → text = ['0'])

/-- The text of a fraction with these digits. Without digits there is none. -/
inductive SpellsFraction : List Char → List Char → Prop
  | none : SpellsFraction [] []
  | point {digits : List Char} (h : IsDigits digits) : SpellsFraction ('.' :: digits) digits

/-- The text of an exponent, and the exponent if there is one. -/
inductive SpellsExponent : List Char → Option Int → Prop
  | none : SpellsExponent [] none
  | some {letter : Char} {sign digits : List Char} (exponent : letter ∈ ['e', 'E'])
      (signed : sign ∈ [[], ['+'], ['-']]) (h : IsDigits digits) :
      SpellsExponent (letter :: (sign ++ digits))
        (some (if sign = ['-'] then -(Nat.ofDigitChars 10 digits 0 : Nat)
          else (Nat.ofDigitChars 10 digits 0 : Nat)))

def minusSign (negative : Bool) : List Char :=
  if negative then ['-'] else []

/-- The letters that stand for a character after a backslash. -/
def letters : List (Char × Char) :=
  [('"', '"'), ('\\', '\\'), ('/', '/'), ('b', '\x08'), ('f', '\x0c'), ('n', '\n'), ('r', '\r'),
   ('t', '\t')]

/-- The text of a character between quotes. -/
inductive SpellsChar : List Char → Char → Prop
  | itself {c : Char} (quote : c ≠ '"') (backslash : c ≠ '\\') (control : 0x20 ≤ c.toNat) :
      SpellsChar [c] c
  | letter {letter c : Char} (listed : (letter, c) ∈ letters) : SpellsChar ['\\', letter] c
  | code {digits : List Char} {c : Char} (h : Text.hexCode? digits = some (c.toNat, [])) :
      SpellsChar ('\\' :: 'u' :: digits) c
  | pair {digits digits' : List Char} {high low : Nat}
      (first : Text.hexCode? digits = some (high, [])) (isHigh : Text.isHighSurrogate high = true)
      (second : Text.hexCode? digits' = some (low, [])) (isLow : Text.isLowSurrogate low = true) :
      SpellsChar ('\\' :: 'u' :: (digits ++ '\\' :: 'u' :: digits'))
        (Char.ofNat (Text.pairCode high low))

inductive SpellsChars : List Char → List Char → Prop
  | nil : SpellsChars [] []
  | cons {text more : List Char} {c : Char} {cs : List Char} (first : SpellsChar text c)
      (rest : SpellsChars more cs) : SpellsChars (text ++ more) (c :: cs)

/-- The text of a string, in quotes. -/
inductive SpellsString : List Char → String → Prop
  | quoted {text : List Char} {s : String} (inside : SpellsChars text s.toList) :
      SpellsString ('"' :: (text ++ ['"'])) s

/-- What a part of a text can stand for. -/
inductive Part where
  | value (value : Json)
  /-- A value with blanks around it. -/
  | slot (value : Json)
  | items (items : List Json)
  /-- The name of a member with blanks around it. -/
  | name (name : String)
  | members (members : List (String × Json))

inductive Spells : List Char → Part → Prop
  | null : Spells "null".toList (.value .null)
  | bool (b : Bool) : Spells (if b then "true" else "false").toList (.value (.bool b))
  | int {negative : Bool} {digits : List Char} (h : IsWhole digits) :
      Spells (minusSign negative ++ digits)
        (.value (.int (if negative then -(Nat.ofDigitChars 10 digits 0 : Nat)
          else (Nat.ofDigitChars 10 digits 0 : Nat))))
  | float {negative : Bool} {whole fraction digits exponent : List Char} {power : Option Int}
      (isWhole : IsWhole whole) (isFraction : SpellsFraction fraction digits)
      (isExponent : SpellsExponent exponent power) (either : digits ≠ [] ∨ power ≠ none) :
      Spells (minusSign negative ++ (whole ++ (fraction ++ exponent)))
        (.value (.float (Binary64.ofScientific negative
          ⟨Nat.ofDigitChars 10 (whole ++ digits) 0, power.getD 0 - digits.length⟩)))
  | str {text : List Char} {s : String} (h : SpellsString text s) : Spells text (.value (.str s))
  | arr {text : List Char} {items : List Json} (inside : Spells text (.items items)) :
      Spells ('[' :: (text ++ [']'])) (.value (.arr items))
  | obj {text : List Char} {members : List (String × Json)}
      (inside : Spells text (.members members)) :
      Spells ('\x7b' :: (text ++ ['\x7d'])) (.value (.obj members))
  | slot {front text back : List Char} {value : Json} (before : IsGap front)
      (h : Spells text (.value value)) (after : IsGap back) :
      Spells (front ++ (text ++ back)) (.slot value)
  | noItems {gap : List Char} (h : IsGap gap) : Spells gap (.items [])
  | lastItem {text : List Char} {item : Json} (h : Spells text (.slot item)) :
      Spells text (.items [item])
  | item {text rest : List Char} {item next : Json} {more : List Json}
      (first : Spells text (.slot item)) (others : Spells rest (.items (next :: more))) :
      Spells (text ++ ',' :: rest) (.items (item :: next :: more))
  | name {front text back : List Char} {name : String} (before : IsGap front)
      (h : SpellsString text name) (after : IsGap back) :
      Spells (front ++ (text ++ back)) (.name name)
  | noMembers {gap : List Char} (h : IsGap gap) : Spells gap (.members [])
  | lastMember {key text : List Char} {name : String} {value : Json}
      (named : Spells key (.name name)) (h : Spells text (.slot value)) : Spells (key ++ ':' :: text) (.members [(name, value)])
  | member {key text rest : List Char} {name : String} {value : Json} {next : String × Json}
      {more : List (String × Json)} (named : Spells key (.name name))
      (first : Spells text (.slot value)) (others : Spells rest (.members (next :: more))) :
      Spells (key ++ ':' :: (text ++ ',' :: rest)) (.members ((name, value) :: next :: more))

mutual

/-- What a value comes down to: the values in it that are neither arrays nor objects. -/
def leaves : Json → List Json
  | .arr items => leavesOfItems items
  | .obj members => leavesOfMembers members
  | leaf => [leaf]

def leavesOfItems : List Json → List Json
  | [] => []
  | item :: more => item.leaves ++ leavesOfItems more

def leavesOfMembers : List (String × Json) → List Json
  | [] => []
  | (_, value) :: more => value.leaves ++ leavesOfMembers more

end

def Part.leaves : Part → List Json
  | .value v | .slot v => v.leaves
  | .items values => leavesOfItems values
  | .name _ => []
  | .members pairs => leavesOfMembers pairs

/-- The text is a JSON text of this value. -/
def IsText (text : String) (value : Json) : Prop :=
  Spells text.toList (.slot value)

end Giro.Json
