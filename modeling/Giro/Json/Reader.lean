import Giro.Binary64.Decimal
import Giro.Json.Basic
import Giro.Text.Surrogate

/-!
Reading JSON text. Beyond the standard the words `NaN`, `Infinity` and `-Infinity` are numbers. A
number with a fraction or an exponent is a double and any other a whole number. How long a whole
number and how deep a nesting may be is up to the caller, and so is how a surrogate without its
partner is marked. The text is read from left to right and the first fault decides.
-/

namespace Giro.Json

inductive ReadError where
  | malformed
  | integerTooLong (digits : Nat)
  | tooDeep
  deriving DecidableEq, Repr

/-- What is up to the caller. Without a limit everything is taken. -/
structure ReadRules where
  /-- The most digits of a whole number. -/
  digits : Option Nat
  /-- The most arrays and objects that are open at one place. -/
  depth : Option Nat
  /-- How many marks tell a surrogate without its partner. -/
  marks : Nat
  deriving DecidableEq, Repr

namespace Reader

abbrev Step (α : Type) := Except ReadError (α × List Char)

def isSpace (c : Char) : Bool :=
  c = ' ' || c = '\t' || c = '\n' || c = '\r'

def skip (text : List Char) : List Char :=
  text.dropWhile isSpace

def digits (text : List Char) : List Char × List Char :=
  (text.takeWhile Char.isDigit, text.dropWhile Char.isDigit)

def fraction : List Char → List Char × List Char
  | '.' :: rest =>
      match digits rest with
      | ([], _) => ([], '.' :: rest)
      | taken => taken
  | text => ([], text)

/-- A sign before the digits of an exponent: whether it is a minus, and the rest. -/
def sign : List Char → Bool × List Char
  | '-' :: rest => (true, rest)
  | '+' :: rest => (false, rest)
  | text => (false, text)

/-- The exponent that begins at this letter, if it has digits. -/
def exponent : List Char → Option Int × List Char
  | c :: rest =>
      if c = 'e' ∨ c = 'E' then
        match digits (sign rest).2 with
        | ([], _) => (none, c :: rest)
        | (taken, after) =>
            let value : Int := Nat.ofDigitChars 10 taken 0
            (some (if (sign rest).1 then -value else value), after)
      else (none, c :: rest)
  | [] => (none, [])

/-- Digits of the whole part: a zero stands alone. -/
def whole : List Char → Option (List Char × List Char)
  | '0' :: rest => some (['0'], rest)
  | text =>
      match digits text with
      | ([], _) => none
      | taken => some taken

/-- A number without its sign. A whole number that is too long is refused. -/
def number (rules : ReadRules) (negative : Bool) (text : List Char) : Step Json :=
  match whole text with
  | none => .error .malformed
  | some (wholeDigits, afterWhole) =>
      let (fractionDigits, afterFraction) := fraction afterWhole
      let (power, after) := exponent afterFraction
      if fractionDigits.isEmpty && power.isNone then
        if rules.digits.any (· < wholeDigits.length) then
          .error (.integerTooLong wholeDigits.length)
        else
          let value : Int := Nat.ofDigitChars 10 wholeDigits 0
          .ok (.int (if negative then -value else value), after)
      else
        let decimal : Binary64.Scientific :=
          ⟨Nat.ofDigitChars 10 (wholeDigits ++ fractionDigits) 0,
            power.getD 0 - fractionDigits.length⟩
        .ok (.float (Binary64.ofScientific negative decimal), after)

/-- The characters of one code, or of the two codes of a surrogate pair, with what follows. -/
def codeChars? (marks : Nat) (text : List Char) : Option (List Char × List Char) := do
  let (code, rest) ← Text.hexCode? text
  let alone := (Text.ofCode marks code, rest)
  match rest with
  | '\\' :: 'u' :: second =>
      if Text.isHighSurrogate code then
        let (low, after) ← Text.hexCode? second
        some (if Text.isLowSurrogate low then
          (Text.ofCode marks (Text.pairCode code low), after) else alone)
      else some alone
  | _ => some alone

def escaped? : Char → Option Char
  | '"' => some '"'
  | '\\' => some '\\'
  | '/' => some '/'
  | 'b' => some '\x08'
  | 'f' => some '\x0c'
  | 'n' => some '\n'
  | 'r' => some '\r'
  | 't' => some '\t'
  | _ => none

/-- The characters up to the closing quote and the text after it; `fuel` bounds their number. -/
def characters (marks : Nat) : Nat → List Char → Step (List Char)
  | 0, _ => .error .malformed
  | fuel + 1, text =>
      match text with
      | '"' :: rest => .ok ([], rest)
      | '\\' :: 'u' :: rest =>
          match codeChars? marks rest with
          | none => .error .malformed
          | some (written, after) =>
              (characters marks fuel after).map fun (cs, last) => (written ++ cs, last)
      | '\\' :: c :: rest =>
          match escaped? c with
          | none => .error .malformed
          | some c => (characters marks fuel rest).map fun (cs, last) => (c :: cs, last)
      | c :: rest =>
          if c = '\\' ∨ c.toNat < 0x20 then .error .malformed
          else (characters marks fuel rest).map fun (cs, last) => (c :: cs, last)
      | [] => .error .malformed

def string (marks : Nat) (text : List Char) : Step String :=
  (characters marks (text.length + 1) text).map fun (cs, rest) => (.ofList cs, rest)

def word? (text : List Char) : Option (Json × List Char) :=
  let words : List (String × Json) :=
    [("null", .null), ("true", .bool true), ("false", .bool false), ("NaN", .float .nan),
     ("Infinity", .float (.infinite false)), ("-Infinity", .float (.infinite true))]
  words.findSome? fun (word, value) =>
    if word.toList.isPrefixOf text then some (value, text.drop word.length) else none

mutual

/-- A value at the start of the text, with so many arrays and objects open around it; `fuel` bounds
the number of values and members. -/
def value (rules : ReadRules) : Nat → Nat → List Char → Step Json
  | 0, _, _ => .error .malformed
  | fuel + 1, depth, text =>
      match word? text with
      | some step => .ok step
      | none =>
          match text with
          | '"' :: rest => (string rules.marks rest).map fun (s, after) => (.str s, after)
          | '[' :: rest =>
              if rules.depth.any (· ≤ depth) then .error .tooDeep
              else match skip rest with
                | ']' :: after => .ok (.arr [], after)
                | first =>
                    (items rules fuel (depth + 1) first).map fun (values, after) =>
                      (.arr values, after)
          | '\x7b' :: rest =>
              if rules.depth.any (· ≤ depth) then .error .tooDeep
              else match skip rest with
                | '\x7d' :: after => .ok (.obj [], after)
                | first =>
                    (members rules fuel (depth + 1) first).map fun (pairs, after) =>
                      (.obj pairs, after)
          | '-' :: rest => number rules true rest
          | _ => number rules false text

def items (rules : ReadRules) : Nat → Nat → List Char → Step (List Json)
  | 0, _, _ => .error .malformed
  | fuel + 1, depth, text =>
      match value rules fuel depth text with
      | .error e => .error e
      | .ok (first, after) =>
          match skip after with
          | ']' :: rest => .ok ([first], rest)
          | ',' :: rest =>
              (items rules fuel depth (skip rest)).map fun (more, last) => (first :: more, last)
          | _ => .error .malformed

def members (rules : ReadRules) : Nat → Nat → List Char → Step (List (String × Json))
  | 0, _, _ => .error .malformed
  | fuel + 1, depth, text =>
      match text with
      | '"' :: quoted =>
          match string rules.marks quoted with
          | .error e => .error e
          | .ok (name, afterName) =>
              match skip afterName with
              | ':' :: rest =>
                  match value rules fuel depth (skip rest) with
                  | .error e => .error e
                  | .ok (first, after) =>
                      match skip after with
                      | '\x7d' :: rest => .ok ([(name, first)], rest)
                      | ',' :: rest =>
                          (members rules fuel depth (skip rest)).map fun (more, last) =>
                            ((name, first) :: more, last)
                      | _ => .error .malformed
              | _ => .error .malformed
      | _ => .error .malformed

end

end Reader

def read (rules : ReadRules) (text : String) : Except ReadError Json :=
  let chars := text.toList
  match Reader.value rules (2 * chars.length + 2) 0 (Reader.skip chars) with
  | .error e => .error e
  | .ok (value, rest) => if (Reader.skip rest).isEmpty then .ok value else .error .malformed

end Giro.Json
